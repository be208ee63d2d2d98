import Mathlib.Data.List.Destutter
import Mathlib.Data.List.DropRight
import HeaterHost.TemperatureStore

/-!
# Fresh samples

A step of a sensor that fails publishes the time of the last good reading again, and whoever looks
at a sensor more often than it is read sees a sample again. So what is drawn from a sensor are its
fresh samples: the valid ones, except where one has the time of the one that was kept before it. The
temperature store is a window on them.
-/

namespace HeaterHost

section fresh

variable {α β : Type} [BEq α] (sample : β → Sample α)

/-- The items with a fresh sample. -/
def freshBy (items : List β) : List β :=
  (items.filter fun item => (sample item).valid).destutter fun kept item =>
    (sample kept).timestamp != (sample item).timestamp

/-- Whether an item is fresh if it comes after others. -/
def isFreshAfter (items : List β) (item : β) : Bool :=
  (sample item).valid && !(freshBy sample items).getLast?.any fun kept =>
    (sample kept).timestamp == (sample item).timestamp

theorem destutter'_concat (R : β → β → Prop) [DecidableRel R] (first last : β) (items : List β) :
    (items ++ [last]).destutter' R first =
      if ∀ kept ∈ (items.destutter' R first).getLast?, R kept last then
        items.destutter' R first ++ [last]
      else items.destutter' R first := by
  induction items generalizing first with
  | nil => simp [List.destutter'_singleton]
  | cons item items ih =>
      rw [List.cons_append]
      by_cases hkept : R first item
      · rw [List.destutter'_cons_pos _ hkept, List.destutter'_cons_pos _ hkept, ih,
          List.getLast?_cons_of_ne_nil (List.destutter'_ne_nil _ _)]
        split <;> rfl
      · rw [List.destutter'_cons_neg _ hkept, List.destutter'_cons_neg _ hkept, ih]

theorem destutter_concat (R : β → β → Prop) [DecidableRel R] (items : List β) (last : β) :
    (items ++ [last]).destutter R =
      if ∀ kept ∈ (items.destutter R).getLast?, R kept last then items.destutter R ++ [last]
      else items.destutter R := by
  cases items with
  | nil => simp
  | cons first items => exact destutter'_concat R first last items

/-- One more item is kept exactly if it is fresh. -/
theorem freshBy_concat (items : List β) (item : β) :
    freshBy sample (items ++ [item]) =
      if isFreshAfter sample items item then freshBy sample items ++ [item]
      else freshBy sample items := by
  cases hvalid : (sample item).valid with
  | false => simp [freshBy, isFreshAfter, hvalid]
  | true =>
      have hfilter : (items ++ [item]).filter (fun item => (sample item).valid) =
          items.filter (fun item => (sample item).valid) ++ [item] := by
        simp [hvalid]
      rw [freshBy, hfilter, destutter_concat, ← freshBy]
      refine if_congr ?_ rfl rfl
      rw [isFreshAfter, hvalid]
      cases (freshBy sample items).getLast? <;> simp [bne]

/-- An item that is not fresh leaves no trace, wherever it comes in. -/
theorem freshBy_insert {before : List β} {extra : β}
    (hextra : isFreshAfter sample before extra = false) (after : List β) :
    freshBy sample (before ++ extra :: after) = freshBy sample (before ++ after) := by
  induction after using List.reverseRecOn with
  | nil => rw [freshBy_concat, hextra, List.append_nil]; rfl
  | append_singleton after item ih =>
      rw [← List.cons_append, ← List.append_assoc, ← List.append_assoc, freshBy_concat,
        freshBy_concat, isFreshAfter, isFreshAfter, ih]

end fresh

/-! ### The store -/

namespace TemperatureStore

variable {α β : Type}

theorem getLast?_rtake {limit : Nat} (hlimit : 0 < limit) (items : List β) :
    (items.rtake limit).getLast? = items.getLast? := by
  rw [List.rtake_eq_reverse_take_reverse, List.getLast?_reverse, List.head?_take,
    if_neg hlimit.ne', List.head?_reverse]

theorem pushWithin_rtake {limit : Nat} (hlimit : 0 < limit) (items : List β) (item : β) :
    pushWithin limit (items.rtake limit) item = (items ++ [item]).rtake limit := by
  rw [List.rtake_eq_reverse_take_reverse, pushWithin_latest hlimit,
    List.rtake_eq_reverse_take_reverse, List.reverse_concat]

variable [BEq α]

theorem add_eq (store : TemperatureStore α) (sample : Sample α) :
    store.add sample =
      if sample.valid && !store.isRepeat sample then
        { store with samples := pushWithin store.capacity store.samples sample }
      else store := by
  cases hvalid : sample.valid <;> cases hrepeat : store.isRepeat sample <;>
    simp [add, hvalid, hrepeat]

/-- The window never hides the sample that a repeat is told by. -/
theorem isRepeat_rtake {capacity : Nat} (hcapacity : 0 < capacity) (kept : List (Sample α))
    (sample : Sample α) :
    isRepeat { capacity, samples := kept.rtake capacity } sample =
      kept.getLast?.any fun last => last.timestamp == sample.timestamp := by
  rw [isRepeat, latest, getLast?_rtake hcapacity]

theorem foldl_add {capacity : Nat} (hcapacity : 0 < capacity) (samples : List (Sample α)) :
    samples.foldl add { capacity } =
      { capacity, samples := (freshBy id samples).rtake capacity } := by
  induction samples using List.reverseRecOn with
  | nil => simp [freshBy]
  | append_singleton samples sample ih =>
      have hfresh : (sample.valid &&
          !isRepeat { capacity, samples := (freshBy id samples).rtake capacity } sample) =
            isFreshAfter id samples sample := by
        rw [isRepeat_rtake hcapacity]
        rfl
      rw [List.foldl_concat, ih, add_eq, hfresh, freshBy_concat, pushWithin_rtake hcapacity]
      split <;> rfl

/-- **The store is a window on the fresh samples.** After any samples it holds, oldest first, the
last `capacity` of those that are fresh, or all of them if there are fewer. -/
theorem store_is_window_on_fresh_samples (capacity : Nat) (hcapacity : 1 ≤ capacity)
    (samples : List (Sample α)) :
    (samples.foldl add { capacity }).samples = (freshBy id samples).rtake capacity := by
  rw [foldl_add hcapacity]

/-- Readings with repeats and failures in between, the last of them of a time that the store has
already dropped. -/
def brokenMorning : List (Sample Float) :=
  [.failed 0.0 20.0, .reading 1.0 20.0, .reading 1.0 20.5, .failed 1.0 20.0, .reading 2.0 21.0,
    .failed 2.0 21.0, .reading 2.0 21.0, .reading 3.0 22.0, .reading 1.0 20.0]

theorem store_of_brokenMorning :
    1 ≤ 2 ∧ ((brokenMorning.foldl add { capacity := 2 }).samples.map (·.timestamp)) = [3.0, 1.0] ∧
      ((brokenMorning.foldl add { capacity := 1 }).samples.map (·.value)) = [20.0] ∧
      ((brokenMorning.foldl add { capacity := 9 }).samples.map (·.timestamp)) =
        [1.0, 2.0, 3.0, 1.0] := by
  refine ⟨by decide, ?_, ?_, ?_⟩
  · rw [store_is_window_on_fresh_samples 2 (by decide)]
    decide +kernel
  · rw [store_is_window_on_fresh_samples 1 (by decide)]
    decide +kernel
  · rw [store_is_window_on_fresh_samples 9 (by decide)]
    decide +kernel

end TemperatureStore

end HeaterHost
