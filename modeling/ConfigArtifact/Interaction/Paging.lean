import Mathlib.Data.List.Forall2

/-! Collections that are read page by page.

A page ends with the cursor of the next one, or with none. When each cursor
stands for an offset into one and the same list, whoever follows the cursors to
the end has read the whole list once.
-/

set_option autoImplicit false

namespace Interaction

structure Page (A : Type) where
  items : List A
  cursor : Option String

variable {A B : Type}

/-- The items of all pages from a cursor to the end. -/
inductive Followed (gives : Option String → Page A → Prop) : Option String → List A → Prop
  | last {cursor : Option String} {items : List A} :
      gives cursor ⟨items, none⟩ → Followed gives cursor items
  | next {cursor : Option String} {items rest : List A} {following : String} :
      gives cursor ⟨items, some following⟩ → Followed gives (some following) rest →
      Followed gives cursor (items ++ rest)

/-- Pages of one size of a list, where cursors stand for offsets; `reads` says what the items of
a page are to the part of the list they stand for. -/
structure Paginates (offset : Option String → Option Nat) (size : Nat)
    (reads : List B → List A → Prop) (whole : List B) (gives : Option String → Page A → Prop) :
    Prop where
  nil : reads [] []
  append : ∀ {front back items rest}, reads front items → reads back rest →
    reads (front ++ back) (items ++ rest)
  page : ∀ {cursor page}, gives cursor page → ∃ start, offset cursor = some start ∧
    reads ((whole.drop start).take size) page.items ∧
    (page.cursor = none → whole.length ≤ start + size) ∧
    ∀ following, page.cursor = some following →
      start + size < whole.length ∧ offset (some following) = some (start + size)

namespace Paginates

variable {offset : Option String → Option Nat} {size : Nat} {reads : List B → List A → Prop}
  {whole : List B} {gives : Option String → Page A → Prop} {cursor : Option String}

/-- Following the cursors reads the rest of the list, every item of it once. -/
theorem reads_followed (pages : Paginates offset size reads whole gives) {items : List A}
    (followed : Followed gives cursor items) {start : Nat} (stands : offset cursor = some start) :
    reads (whole.drop start) items := by
  induction followed generalizing start with
  | last given =>
    obtain ⟨began, stood, read, ended, -⟩ := pages.page given
    obtain rfl : start = began := Option.some.inj (stands.symm.trans stood)
    -- No cursor is given only where the page reaches the end.
    have short : (whole.drop start).length ≤ size := by
      have reached := ended rfl
      rw [List.length_drop]
      omega
    rwa [List.take_of_length_le short] at read
  | next given _ ih =>
    obtain ⟨began, stood, read, -, goes⟩ := pages.page given
    obtain rfl : start = began := Option.some.inj (stands.symm.trans stood)
    -- The next cursor stands where the page has ended.
    have rest := ih (goes _ rfl).2
    rw [← List.take_append_drop size (whole.drop start), List.drop_drop]
    exact pages.append read rest

end Paginates

end Interaction
