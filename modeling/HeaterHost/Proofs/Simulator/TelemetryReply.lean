import HeaterHost.Proofs.Decimal.Value
import HeaterHost.Proofs.Simulator.Board
import HeaterHost.Proofs.Wire.TelemetryFields

/-!
# The telemetry of a simulated board

A board writes its telemetry as five fields, and the host reads off it what the board meant: its
tick, its temperature to the nearest hundredth of a degree, and its flags.
-/

namespace HeaterHost

open Text Wire

/-- A field that can be written without being taken apart again. -/
structure Wire.Writable (key value : String) : Prop where
  bareKey : Bare key.toList
  colon : ':' ∉ key.toList
  comma : ',' ∉ key.toList
  bareValue : Bare value.toList
  whole : ',' ∉ value.toList

namespace Wire.Writable

variable {key value : String} {before rest : List Char} {fields : List (String × String)}

theorem segmentReads (hfield : Writable key value) (hbefore : AllBlank before) :
    SegmentReads (before ++ key.toList ++ ':' :: value.toList) (some (key, value)) := by
  have hreads := SegmentReads.field hfield.bareKey hfield.colon hfield.bareValue hbefore .nil .nil .nil
  rwa [List.append_nil, List.nil_append, List.append_nil] at hreads

theorem comma_notMem (hfield : Writable key value) (hbefore : AllBlank before) :
    ',' ∉ before ++ key.toList ++ ':' :: value.toList := by
  have hmark : isBlank ',' = false := rfl
  simp [notMem_of_allBlank hmark hbefore, hfield.comma, hfield.whole]

theorem last (hfield : Writable key value) (hbefore : AllBlank before) :
    LineReads (before ++ key.toList ++ ':' :: value.toList) [(key, value)] :=
  .last (hfield.comma_notMem hbefore) (hfield.segmentReads hbefore)

theorem more (hfield : Writable key value) (hbefore : AllBlank before)
    (hrest : LineReads rest fields) :
    LineReads ((before ++ key.toList ++ ':' :: value.toList) ++ ',' :: rest)
      ((key, value) :: fields) :=
  .more (hfield.comma_notMem hbefore) (hfield.segmentReads hbefore) hrest

end Wire.Writable

theorem Wire.Writable.numeral {key value : String} (hkey : Solid key.toList)
    (hcolon : ':' ∉ key.toList) (hcomma : ',' ∉ key.toList)
    (hvalue : Decimal.AllNumeral value.toList) (hne : value.toList ≠ []) : Writable key value := by
  refine ⟨hkey.bare, hcolon, hcomma, (hvalue.solid hne).bare, ?_⟩
  intro hmem
  exact absurd (Decimal.isNumeral_toNat (hvalue _ hmem)).1 (by decide)

namespace Simulator.Board

/-- The fields that a board writes. -/
def fields (b : Board) : List (String × String) :=
  [("tick", Nat.repr b.tick),
    ("T_a", toString (Decimal.roundToSigned64 (b.model.measured * 100.0))),
    ("T_set", Decimal.plain b.target),
    ("pwr", Decimal.fixed 3 b.power),
    ("err", b.flags)]

theorem telemetry_reads (b : Board) {s : Switches} (hmute : s.mute = false)
    (hmalformed : s.malformed = false) :
    ∃ reply, b.telemetry s = [reply] ∧
      (Bare b.flags.toList → ',' ∉ b.flags.toList → LineReads reply.toList b.fields) := by
  rw [telemetry, hmute, hmalformed]
  refine ⟨_, rfl, fun hbare hcomma => ?_⟩
  have hspace : AllBlank [' '] := by
    intro c hc
    rw [List.mem_singleton.mp hc]
    rfl
  have htick : Writable "tick" (Nat.repr b.tick) :=
    .numeral (.of_all (by decide)) (by decide) (by decide) (Decimal.allNumeral_repr _) (by simp)
  have hreading : Writable "T_a" (toString (Decimal.roundToSigned64 (b.model.measured * 100.0))) :=
    .numeral (.of_all (by decide)) (by decide) (by decide) (Decimal.allNumeral_intRepr _)
      (signed_toString _).ne_nil
  have htarget : Writable "T_set" (Decimal.plain b.target) :=
    .numeral (.of_all (by decide)) (by decide) (by decide) (Decimal.allNumeral_text _ _)
      (Decimal.text_ne_nil _ _)
  have hpower : Writable "pwr" (Decimal.fixed 3 b.power) :=
    .numeral (.of_all (by decide)) (by decide) (by decide) (Decimal.allNumeral_fixed _ _)
      (Decimal.fixed_ne_nil _ _)
  have herr : Solid "err".toList := .of_all (by decide)
  have hflags : Writable "err" b.flags := ⟨herr.bare, by decide, by decide, hbare, hcomma⟩
  have hreads := htick.more .nil (hreading.more hspace (htarget.more hspace (hpower.more hspace
    (hflags.last hspace))))
  simp [toString] at hreads ⊢
  exact hreads

/-- The fields of a board convey its tick, its temperature and its flags. -/
theorem conveys_fields {b : Board} (htick : b.tick ≤ lastTick) {q : ℚ}
    (hexact : Decimal.Exact (b.model.measured * 100.0) q) (hlow : -2 ^ 63 ≤ q)
    (hhigh : q ≤ 2 ^ 63 - 1) :
    Conveys b.fields
      { tick := b.tick
        hundredths := Decimal.nearestWhole q
        flags := { raw := zeroFilled b.flags }
        fields := b.fields } := by
  have hrounded := Decimal.roundToSigned64_eq hexact hlow hhigh
  obtain ⟨hleast, hgreatest⟩ := Decimal.roundToSigned64_bounds (b.model.measured * 100.0)
  rw [hrounded] at hleast hgreatest
  have hsigned := signed_toString (Decimal.nearestWhole q)
  rw [← hrounded] at hsigned
  have hnumber : FirstValue "tick" b.fields (Nat.repr b.tick) := lookup_eq_some_iff.mp rfl
  have hreading : FirstValue "T_a" b.fields _ := lookup_eq_some_iff.mp rfl
  have hflags : FirstValue "err" b.fields b.flags := lookup_eq_some_iff.mp rfl
  have hroom : b.tick < 2 ^ 64 := Nat.lt_of_le_of_lt htick (by decide)
  refine ⟨rfl, ⟨_, hnumber, unsigned_repr b.tick, hroom⟩, ⟨_, hreading, ?_, hleast, hgreatest⟩,
    .inl ⟨_, hflags, rfl⟩⟩
  rwa [hrounded] at hsigned ⊢

theorem handle_d (b : Board) (s : Switches) (now : Instant) (htick : b.tick < lastTick) :
    b.handle s now "d" =
      ({ b.advance now with tick := b.tick + 1 },
        some (telemetry { b.advance now with tick := b.tick + 1 } s)) := by
  have hlegible := DeviceCommand.queryTelemetry.legible_instructions
  have hcommands : commands "d" = [(Instruction.text { name := "d" }).toList] := by decide
  have hadvance : (b.advance now).tick < lastTick := htick
  rw [handle, hcommands, obeyAll_cons b s now (hlegible _ List.mem_cons_self)]
  simp only [obey, hadvance, ↓reduceIte, obeyAll, Option.map_some, List.append_nil]
  rfl

end Simulator.Board

open Simulator in
/-- **Telemetry is read as it was written.** A line in which fields stand, with white space around
them and blank segments between them, is read as just these fields. It is telemetry if every segment
with something in it is a field, and the first tick and the first temperature are whole numbers that
fit; the tick, the temperature and the flags are those of the first such fields. A board that
answers a query is understood as it was meant, if its temperature has as many hundredths as can be
told and its flags can stand in a field. -/
theorem Wire.Telemetry.parse_inverts_writing :
    (∀ line fields, LineReads line.toList fields → ∀ t,
      Telemetry.parse line = .ok t ↔ Conveys fields t) ∧
    (∀ line, (∃ t, Telemetry.parse line = .ok t) ↔
      (∀ segment ∈ line.toList.splitOn ',', ¬AllBlank segment → ':' ∈ segment) ∧
      ∃ fields, LineReads line.toList fields ∧
        (∃ value n, FirstValue "tick" fields value ∧ Unsigned value.toList n ∧ n < 2 ^ 64) ∧
        ∃ value n, FirstValue "T_a" fields value ∧ Signed value.toList n ∧ -2 ^ 63 ≤ n ∧
          n < 2 ^ 63) ∧
    ∀ (b : Board) (s : Switches) (now : Instant), s.mute = false → s.malformed = false →
      b.tick < Board.lastTick →
      ∃ b' reply, b.handle s now "d" = (b', some [reply]) ∧
        ∀ q, Decimal.Exact (b'.model.measured * 100.0) q → -2 ^ 63 ≤ q → q ≤ 2 ^ 63 - 1 →
          Bare b'.flags.toList → ',' ∉ b'.flags.toList →
          ∃ t, Telemetry.parse reply = .ok t ∧ t.tick = b'.tick ∧
            t.hundredths = Decimal.nearestWhole q ∧
            t.temperature = Float.ofInt (Decimal.nearestWhole q) / 100.0 ∧
            t.flags.raw = zeroFilled b'.flags := by
  refine ⟨fun line fields hreads t => parse_eq_ok_iff hreads t, fun line => parse_isOk_iff, ?_⟩
  intro b s now hmute hmalformed htick
  obtain ⟨asked, hasked⟩ : ∃ asked : Board, asked = { b.advance now with tick := b.tick + 1 } :=
    ⟨_, rfl⟩
  obtain ⟨reply, hreply, hreads⟩ := asked.telemetry_reads hmute hmalformed
  have hhandle := b.handle_d s now htick
  rw [← hasked, hreply] at hhandle
  refine ⟨asked, reply, hhandle, fun q hexact hlow hhigh hbare hcomma => ?_⟩
  have hlast : asked.tick ≤ Board.lastTick := by
    rw [hasked]
    exact htick
  have hconveys := Board.conveys_fields hlast hexact hlow hhigh
  exact ⟨_, (parse_eq_ok_iff (hreads hbare hcomma) _).mpr hconveys, rfl, rfl, rfl, rfl⟩

open Simulator in
theorem Wire.Telemetry.parse_reply_at_rest :
    LineReads "tick:1,,T_a: +25".toList [("tick", "1"), ("T_a", "+25")] ∧
    Telemetry.parse "tick:1,,T_a: +25" =
      .ok { tick := 1, hundredths := 25, flags := .none, fields := [("tick", "1"), ("T_a", "+25")] } ∧
    ∃ b' reply t, Board.handle { model := .hotend } {} 0 "d" = (b', some [reply]) ∧
      Telemetry.parse reply = .ok t ∧ t.tick = 1 ∧ t.hundredths = 2500 ∧ t.flags.raw = "000000" := by
  obtain ⟨hlines, -, hboards⟩ := parse_inverts_writing
  have hreads : LineReads "tick:1,,T_a: +25".toList [("tick", "1"), ("T_a", "+25")] :=
    lineReads_iff.mpr (by decide)
  have htick : FirstValue "tick" [("tick", "1"), ("T_a", "+25")] "1" := lookup_eq_some_iff.mp rfl
  have hvalue : FirstValue "T_a" [("tick", "1"), ("T_a", "+25")] "+25" := lookup_eq_some_iff.mp rfl
  have hnumber : Unsigned "1".toList 1 := .bare (natural?_eq_some_iff.mp rfl)
  have hdegrees : Signed "+25".toList (25 : Nat) :=
    .nonneg (.plus (natural?_eq_some_iff.mp rfl))
  refine ⟨hreads, (hlines _ _ hreads _).mpr ⟨rfl, ⟨_, htick, hnumber, by decide⟩,
    ⟨_, hvalue, hdegrees, by decide, by decide⟩, .inr ⟨by decide, rfl⟩⟩, ?_⟩
  obtain ⟨b', reply, hhandle, htells⟩ := hboards { model := .hotend } {} 0 rfl rfl (by decide)
  have hboard : b' = { model := .hotend, tick := 1, lastStep := some 0 } :=
    (congrArg Prod.fst hhandle).symm
  subst hboard
  have hexact : Decimal.Exact ((Thermal.hotend : Thermal Float).measured * 100.0) 2500 := by
    have hparts : Decimal.Binary.ofFloat ((Thermal.hotend : Thermal Float).measured * 100.0) =
        .finite false 5497558138880000 (-41) := rfl
    have hvalue := Decimal.Exact.intro hparts
    norm_num at hvalue
    exact hvalue
  have hround : Decimal.nearestWhole 2500 = 2500 := by
    rw [Decimal.nearestWhole_of_nonneg (by norm_num)]
    exact round_ofNat 2500
  have hbare : Bare "000000".toList := (Solid.of_all (by decide)).bare
  obtain ⟨t, hparse, hsame, hrounded, -, hflags⟩ :=
    htells 2500 hexact (by norm_num) (by norm_num) hbare (by decide)
  exact ⟨_, reply, t, hhandle, hparse, hsame, hrounded.trans hround, hflags⟩

end HeaterHost
