import Mathlib.Data.List.Induction
import Mathlib.Data.List.Sort
import Mathlib.Data.String.Basic
import HeaterHost.NameMap

/-!
# Reading a map after a change

A name is looked up in the latest pair that has it. A map made of pairs keeps them in the order of
their names, so it is determined by what it gives for each name.
-/

namespace HeaterHost.NameMap

variable {α : Type}

theorem find?_insertEntry_self (name : String) (value : α) (entries : List (String × α)) :
    (insertEntry name value entries).find? (fun entry => entry.1 == name) = some (name, value) := by
  induction entries with
  | nil => simp [insertEntry]
  | cons entry rest ih =>
      obtain ⟨other, old⟩ := entry
      unfold insertEntry
      split
      · simp
      · split
        · simp
        case isFalse hne =>
          have hother : (other == name) = false := by simpa using Ne.symm hne
          simpa [List.find?_cons, hother] using ih

theorem find?_insertEntry_of_ne {name other : String} (hne : other ≠ name) (value : α)
    (entries : List (String × α)) :
    (insertEntry name value entries).find? (fun entry => entry.1 == other) =
      entries.find? fun entry => entry.1 == other := by
  have hname : (name == other) = false := by simpa using Ne.symm hne
  induction entries with
  | nil => simp [insertEntry, hname]
  | cons entry rest ih =>
      obtain ⟨key, old⟩ := entry
      unfold insertEntry
      split
      · simp [hname]
      · split
        case isTrue heq =>
          subst heq
          simp [hname]
        case isFalse => simp [List.find?_cons, ih]

@[simp] theorem get?_insert_self (m : NameMap α) (name : String) (value : α) :
    (m.insert name value).get? name = some value := by
  simp only [get?, insert]
  rw [find?_insertEntry_self]
  rfl

theorem get?_insert_of_ne (m : NameMap α) {name other : String} (hne : other ≠ name) (value : α) :
    (m.insert name value).get? other = m.get? other := by
  simp only [get?, insert]
  rw [find?_insertEntry_of_ne hne]

@[simp] theorem get?_empty (name : String) : (empty : NameMap α).get? name = none := rfl

@[simp] theorem get?_erase_self (m : NameMap α) (name : String) :
    (m.erase name).get? name = none := by
  simp [get?, erase, List.find?_filter]

theorem get?_erase_of_ne (m : NameMap α) {name other : String} (hne : other ≠ name) :
    (m.erase name).get? other = m.get? other := by
  have hkept : (fun entry : String × α =>
      decide ((entry.1 != name) = true ∧ (entry.1 == other) = true)) =
      fun entry => entry.1 == other := by
    funext entry
    by_cases heq : entry.1 = other
    · simp [heq, hne]
    · simp [heq]
  simp only [get?, erase, List.find?_filter]
  rw [hkept]

/-! ### Maps of lists -/

theorem ofList_concat (pairs : List (String × α)) (name : String) (value : α) :
    ofList (pairs ++ [(name, value)]) = (ofList pairs).insert name value := by
  rw [ofList, List.foldl_append]
  rfl

theorem mem_of_get?_ofList {pairs : List (String × α)} {name : String} {value : α}
    (hget : (ofList pairs).get? name = some value) : (name, value) ∈ pairs := by
  induction pairs using List.reverseRecOn with
  | nil => cases hget
  | append_singleton pairs pair ih =>
      obtain ⟨last, latest⟩ := pair
      rw [ofList_concat] at hget
      by_cases hname : name = last
      · subst hname
        rw [get?_insert_self] at hget
        cases hget
        exact List.mem_append_right _ (List.mem_singleton_self _)
      · rw [get?_insert_of_ne _ hname] at hget
        exact List.mem_append_left _ (ih hget)

theorem isSome_get?_ofList {pairs : List (String × α)} {name : String} :
    ((ofList pairs).get? name).isSome = true ↔ name ∈ pairs.map (·.1) := by
  induction pairs using List.reverseRecOn with
  | nil => simp [ofList]
  | append_singleton pairs pair ih =>
      obtain ⟨last, latest⟩ := pair
      rw [ofList_concat]
      by_cases hname : name = last
      · subst hname
        simp
      · rw [get?_insert_of_ne _ hname, ih]
        simp [hname]

/-- Of two pairs with one name the later counts. -/
theorem get?_ofList (pairs : List (String × α)) (name : String) :
    (ofList pairs).get? name = ((pairs.filter (·.1 == name)).getLast?).map (·.2) := by
  induction pairs using List.reverseRecOn with
  | nil => rfl
  | append_singleton pairs pair ih =>
      obtain ⟨last, latest⟩ := pair
      rw [ofList_concat, List.filter_append]
      by_cases hname : name = last
      · subst hname
        simp
      · rw [get?_insert_of_ne _ hname, ih]
        simp [Ne.symm hname]

/-! ### The order of the names -/

/-- The pairs of the map stand in the order of their names, each name once. -/
def Sorted (m : NameMap α) : Prop :=
  m.entries.Pairwise fun entry other => entry.1 < other.1

theorem name_of_mem_insertEntry {name : String} {value : α} {entries : List (String × α)}
    {entry : String × α} (hmem : entry ∈ insertEntry name value entries) :
    entry.1 = name ∨ entry ∈ entries := by
  induction entries with
  | nil =>
      rw [List.mem_singleton.mp hmem]
      exact .inl rfl
  | cons first rest ih =>
      obtain ⟨other, old⟩ := first
      unfold insertEntry at hmem
      split at hmem
      · rcases List.mem_cons.mp hmem with rfl | hmem
        · exact .inl rfl
        · exact .inr hmem
      · split at hmem
        · rcases List.mem_cons.mp hmem with rfl | hmem
          · exact .inl rfl
          · exact .inr (List.mem_cons_of_mem _ hmem)
        · rcases List.mem_cons.mp hmem with rfl | hmem
          · exact .inr List.mem_cons_self
          · exact (ih hmem).imp_right (List.mem_cons_of_mem _)

theorem pairwise_insertEntry (name : String) (value : α) {entries : List (String × α)}
    (hsorted : entries.Pairwise fun entry other => entry.1 < other.1) :
    (insertEntry name value entries).Pairwise fun entry other => entry.1 < other.1 := by
  induction entries with
  | nil => exact List.pairwise_singleton _ _
  | cons first rest ih =>
      obtain ⟨other, old⟩ := first
      obtain ⟨hfirst, hrest⟩ := List.pairwise_cons.mp hsorted
      unfold insertEntry
      split
      case isTrue hbefore =>
        refine List.pairwise_cons.mpr ⟨?_, hsorted⟩
        intro entry hmem
        rcases List.mem_cons.mp hmem with rfl | hmem
        · exact hbefore
        · exact lt_trans hbefore (hfirst entry hmem)
      case isFalse hnot =>
        split
        case isTrue heq =>
          subst heq
          exact List.pairwise_cons.mpr ⟨hfirst, hrest⟩
        case isFalse hne =>
          refine List.pairwise_cons.mpr ⟨?_, ih hrest⟩
          intro entry hmem
          rcases name_of_mem_insertEntry hmem with rfl | hmem
          · exact lt_of_le_of_ne (not_lt.mp hnot) (Ne.symm hne)
          · exact hfirst entry hmem

theorem sorted_ofList (pairs : List (String × α)) : (ofList pairs).Sorted := by
  induction pairs using List.reverseRecOn with
  | nil => exact List.Pairwise.nil
  | append_singleton pairs pair ih =>
      rw [ofList_concat]
      exact pairwise_insertEntry _ _ ih

theorem Sorted.mem_iff {m : NameMap α} (hm : m.Sorted) {name : String} {value : α} :
    (name, value) ∈ m.entries ↔ m.get? name = some value := by
  constructor
  · intro hmem
    obtain ⟨before, after, hentries⟩ := List.append_of_mem hmem
    -- no pair before this one has its name
    have hbefore : ∀ entry ∈ before, entry.1 ≠ name := by
      rw [Sorted, hentries, List.pairwise_append] at hm
      intro entry hentry
      exact ne_of_lt (hm.2.2 entry hentry (name, value) List.mem_cons_self)
    have hnone : before.find? (fun entry => entry.1 == name) = none :=
      List.find?_eq_none.mpr fun entry hentry => by simpa using hbefore entry hentry
    rw [get?, hentries, List.find?_append, hnone]
    simp
  · intro hget
    obtain ⟨⟨other, found⟩, hfind, rfl⟩ := Option.map_eq_some_iff.mp hget
    have hname : other = name := by simpa using List.find?_some hfind
    subst hname
    exact List.mem_of_find?_eq_some hfind

theorem Sorted.ext {m m' : NameMap α} (hm : m.Sorted) (hm' : m'.Sorted)
    (hget : ∀ name, m.get? name = m'.get? name) : m = m' := by
  have hirrefl : Std.Irrefl fun entry other : String × α => entry.1 < other.1 :=
    ⟨fun entry => lt_irrefl entry.1⟩
  have hantisymm : Std.Antisymm fun entry other : String × α => entry.1 < other.1 :=
    ⟨fun _ _ hlt hgt => absurd hgt (lt_asymm hlt)⟩
  have hentries : m.entries = m'.entries := by
    refine List.Pairwise.eq_of_mem_iff hm hm' fun entry => ?_
    rw [hm.mem_iff, hm'.mem_iff, hget]
  cases m
  cases m'
  exact congrArg NameMap.mk hentries

end HeaterHost.NameMap
