/-!
Bounded histories: the newest items of a sequence.
-/

namespace HeaterHost

/-- Adds an item to a history, oldest first. A history that has reached its limit loses its
oldest item. -/
def pushWithin {α : Type} (limit : Nat) (items : List α) (item : α) : List α :=
  (if items.length = limit then items.drop 1 else items) ++ [item]

/-- Pushing an item onto the latest items of a sequence gives the latest items of the longer
sequence. -/
theorem pushWithin_latest {α : Type} {limit : Nat} (hlimit : 0 < limit) (items : List α)
    (item : α) :
    pushWithin limit (items.take limit).reverse item = ((item :: items).take limit).reverse := by
  obtain ⟨below, rfl⟩ : ∃ below, limit = below + 1 := ⟨limit - 1, by omega⟩
  rw [List.take_succ_cons, List.reverse_cons, pushWithin, List.length_reverse, List.length_take]
  congr 1
  split
  case isTrue hfull =>
    rw [List.drop_reverse, List.length_take, hfull, List.take_take]
    congr 2
    omega
  case isFalse hroom =>
    rw [List.take_of_length_le (by omega), List.take_of_length_le (by omega)]

end HeaterHost
