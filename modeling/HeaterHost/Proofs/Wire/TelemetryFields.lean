import Mathlib
import HeaterHost.Proofs.Text.Cuts
import HeaterHost.Proofs.Text.Numeral
import HeaterHost.Wire.Telemetry

/-!
# The fields of a line of telemetry

A line of telemetry is cut at its commas. Every segment that is not blank is a field: a key and a
value with a colon between them, and with white space around both of them that does not count. What
is read off the line is found under the first key of its name.
-/

namespace HeaterHost.Wire

open Text

/-- What stands between two commas. -/
inductive SegmentReads : List Char → Option (String × String) → Prop
  | blank {segment : List Char} (hblank : AllBlank segment) : SegmentReads segment none
  | field {key value : String} {a b c d : List Char} (hkey : Bare key.toList)
      (hcolon : ':' ∉ key.toList) (hvalue : Bare value.toList) (ha : AllBlank a) (hb : AllBlank b)
      (hc : AllBlank c) (hd : AllBlank d) :
      SegmentReads ((a ++ key.toList ++ b) ++ ':' :: (c ++ value.toList ++ d)) (some (key, value))

inductive LineReads : List Char → List (String × String) → Prop
  | last {segment : List Char} {field : Option (String × String)} (hcomma : ',' ∉ segment)
      (hreads : SegmentReads segment field) : LineReads segment field.toList
  | more {segment rest : List Char} {field : Option (String × String)}
      {fields : List (String × String)} (hcomma : ',' ∉ segment)
      (hreads : SegmentReads segment field) (hrest : LineReads rest fields) :
      LineReads (segment ++ ',' :: rest) (field.toList ++ fields)

/-- The first of the fields with a name has a value. -/
def FirstValue (name : String) (fields : List (String × String)) (value : String) : Prop :=
  ∃ before after, fields = before ++ (name, value) :: after ∧ ∀ field ∈ before, field.1 ≠ name

def zeroFilled (value : String) : String :=
  String.ofList (List.replicate (6 - value.length) '0' ++ value.toList)

/-- What fields convey is what is found under the first keys of its names. -/
structure Conveys (fields : List (String × String)) (t : Telemetry) : Prop where
  kept : t.fields = fields
  tick : ∃ value, FirstValue "tick" fields value ∧ Unsigned value.toList t.tick ∧ t.tick < 2 ^ 64
  hundredths : ∃ value, FirstValue "T_a" fields value ∧ Signed value.toList t.hundredths ∧
    -2 ^ 63 ≤ t.hundredths ∧ t.hundredths < 2 ^ 63
  flags : (∃ value, FirstValue "err" fields value ∧ t.flags.raw = zeroFilled value) ∨
    (∀ field ∈ fields, field.1 ≠ "err") ∧ t.flags.raw = "000000"

/-! ### Segments -/

/-- The field of a segment, if it is not blank. -/
def segment? (segment : List Char) : Except TelemetryError (Option (String × String)) :=
  if trimmed segment = [] then .ok none else (Telemetry.field? (trimmed segment)).map some

theorem segment?_of_cut {segment before after : List Char}
    (hcut : cutAt ':' segment = some (before, after)) :
    segment? segment =
      .ok (some (String.ofList (trimmed before), String.ofList (trimmed after))) := by
  obtain ⟨before', after', htrimmed, hbefore, hafter⟩ := cutAt_trimmed rfl hcut
  have hne : trimmed segment ≠ [] := by
    intro hnil
    rw [hnil] at htrimmed
    cases htrimmed
  rw [segment?, if_neg hne, Telemetry.field?, htrimmed]
  simp only [hbefore, hafter]
  rfl

theorem segment?_eq_none_iff {segment : List Char} :
    segment? segment = .ok none ↔ AllBlank segment := by
  rw [← trimmed_eq_nil_iff, segment?]
  constructor
  · intro hnone
    by_contra hne
    rw [if_neg hne] at hnone
    cases hfield : Telemetry.field? (trimmed segment) <;> rw [hfield] at hnone <;> cases hnone
  · intro hnil
    rw [if_pos hnil]

/-- A segment with something in it has a field if there is a colon in it. -/
theorem segment?_isOk_iff {segment : List Char} :
    (∃ field, segment? segment = .ok field) ↔ (¬AllBlank segment → ':' ∈ segment) := by
  by_cases hcolon : ':' ∈ segment
  · obtain ⟨before, after, rfl, hbefore⟩ := List.eq_append_cons_of_mem hcolon
    exact iff_of_true ⟨_, segment?_of_cut (cutAt_append hbefore after)⟩ fun _ => hcolon
  · have hnone : cutAt ':' (trimmed segment) = none := by
      obtain ⟨front, back, -, -, hsegment⟩ := exists_trimmed segment
      refine cutAt_eq_none fun hmem => hcolon ?_
      rw [hsegment]
      simp [hmem]
    constructor
    · rintro ⟨field, hfield⟩ hblank
      have hne : trimmed segment ≠ [] := fun hnil => hblank (trimmed_eq_nil_iff.mp hnil)
      rw [segment?, if_neg hne, Telemetry.field?, hnone] at hfield
      cases hfield
    · intro hblank
      exact ⟨none, segment?_eq_none_iff.mpr (not_not.mp fun h => hcolon (hblank h))⟩

theorem segmentReads_iff {segment : List Char} {field : Option (String × String)} :
    SegmentReads segment field ↔ segment? segment = .ok field := by
  constructor
  · intro hreads
    cases hreads with
    | blank hblank => exact segment?_eq_none_iff.mpr hblank
    | @field key value a b c d hkey hcolon hvalue ha hb hc hd =>
        have hmark : isBlank ':' = false := rfl
        have hbefore : ':' ∉ a ++ key.toList ++ b := by
          simp [notMem_of_allBlank hmark ha, notMem_of_allBlank hmark hb, hcolon]
        rw [segment?_of_cut (cutAt_append hbefore _), trimmed_of_bare ha hkey hb,
          trimmed_of_bare hc hvalue hd, String.ofList_toList, String.ofList_toList]
  · intro hfield
    by_cases hcolon : ':' ∈ segment
    · obtain ⟨before, after, rfl, hbefore⟩ := List.eq_append_cons_of_mem hcolon
      rw [segment?_of_cut (cutAt_append hbefore after)] at hfield
      cases hfield
      obtain ⟨a, b, ha, hb, hparts⟩ := exists_trimmed before
      obtain ⟨c, d, hc, hd, hparts'⟩ := exists_trimmed after
      have hkey : ':' ∉ trimmed before := by
        intro hmem
        apply hbefore
        rw [hparts]
        simp [hmem]
      obtain ⟨key, hkeyText⟩ : ∃ key : String, key.toList = trimmed before :=
        ⟨String.ofList (trimmed before), String.toList_ofList⟩
      obtain ⟨value, hvalueText⟩ : ∃ value : String, value.toList = trimmed after :=
        ⟨String.ofList (trimmed after), String.toList_ofList⟩
      rw [← hkeyText] at hkey hparts ⊢
      rw [← hvalueText] at hparts' ⊢
      rw [String.ofList_toList, String.ofList_toList, hparts, hparts']
      exact .field (hkeyText ▸ bare_trimmed before) hkey (hvalueText ▸ bare_trimmed after) ha hb hc hd
    · have hblank : AllBlank segment :=
        not_not.mp fun h => hcolon (segment?_isOk_iff.mp ⟨field, hfield⟩ h)
      rw [segment?_eq_none_iff.mpr hblank] at hfield
      cases hfield
      exact .blank hblank

/-! ### Lines -/

/-- The fields of the segments of a line. -/
def fieldsIn (segments : List (List Char)) : Except TelemetryError (List (String × String)) :=
  ((segments.map trimmed).filter fun part => !part.isEmpty).mapM Telemetry.field?

theorem fieldsIn_cons (segment : List Char) (rest : List (List Char)) :
    fieldsIn (segment :: rest) =
      (segment? segment).bind fun field => (fieldsIn rest).map (field.toList ++ ·) := by
  by_cases hnil : trimmed segment = []
  · rw [fieldsIn, List.map_cons, List.filter_cons_of_neg (by simp [hnil]), segment?, if_pos hnil]
    change fieldsIn rest = (fieldsIn rest).map ([] ++ ·)
    cases fieldsIn rest <;> rfl
  · rw [fieldsIn, List.map_cons, List.filter_cons_of_pos (by simp [hnil]), segment?, if_neg hnil,
      List.mapM_cons]
    change (Telemetry.field? (trimmed segment)).bind (fun field =>
      (fieldsIn rest).bind fun fields => .ok (field :: fields)) = _
    cases Telemetry.field? (trimmed segment) with
    | error error => rfl
    | ok field => cases fieldsIn rest <;> rfl

theorem fieldsIn_cons_eq_ok_iff {segment : List Char} {rest : List (List Char)}
    {fields : List (String × String)} :
    fieldsIn (segment :: rest) = .ok fields ↔
      ∃ field later, segment? segment = .ok field ∧ fieldsIn rest = .ok later ∧
        fields = field.toList ++ later := by
  rw [fieldsIn_cons]
  cases segment? segment with
  | error error => simp [Except.bind]
  | ok field =>
      cases fieldsIn rest with
      | error error => simp [Except.bind, Except.map]
      | ok later => simp [Except.bind, Except.map, eq_comm]

theorem lineReads_iff {line : List Char} {fields : List (String × String)} :
    LineReads line fields ↔ fieldsIn (line.splitOn ',') = .ok fields := by
  have hnil : fieldsIn [] = .ok [] := rfl
  constructor
  · intro hreads
    induction hreads with
    | last hcomma hsegment =>
        rw [List.splitOn_eq_singleton hcomma, fieldsIn_cons_eq_ok_iff]
        exact ⟨_, _, segmentReads_iff.mp hsegment, hnil, (List.append_nil _).symm⟩
    | more hcomma hsegment hrest ih =>
        rw [List.splitOn_append_cons_self_of_not_mem hcomma, fieldsIn_cons_eq_ok_iff]
        exact ⟨_, _, segmentReads_iff.mp hsegment, ih, rfl⟩
  · intro hfields
    induction hlength : line.length using Nat.strongRecOn generalizing line fields with
    | ind length ih =>
        by_cases hmem : ',' ∈ line
        · obtain ⟨segment, rest, rfl, hcomma⟩ := List.eq_append_cons_of_mem hmem
          rw [List.splitOn_append_cons_self_of_not_mem hcomma, fieldsIn_cons_eq_ok_iff] at hfields
          obtain ⟨field, later, hsegment, hlater, rfl⟩ := hfields
          have hshorter : rest.length < length := by
            rw [← hlength, List.length_append, List.length_cons]
            omega
          exact .more hcomma (segmentReads_iff.mpr hsegment) (ih _ hshorter hlater rfl)
        · rw [List.splitOn_eq_singleton hmem, fieldsIn_cons_eq_ok_iff] at hfields
          obtain ⟨field, later, hsegment, hlater, rfl⟩ := hfields
          rw [hnil] at hlater
          cases hlater
          rw [List.append_nil]
          exact .last hmem (segmentReads_iff.mpr hsegment)

/-- A line can be read if every segment with something in it has a colon. -/
theorem exists_lineReads_iff {line : List Char} :
    (∃ fields, LineReads line fields) ↔
      ∀ segment ∈ line.splitOn ',', ¬AllBlank segment → ':' ∈ segment := by
  simp only [lineReads_iff, ← segment?_isOk_iff]
  induction line.splitOn ',' with
  | nil => exact iff_of_true ⟨[], rfl⟩ nofun
  | cons segment rest ih =>
      rw [List.forall_mem_cons, ← ih]
      simp only [fieldsIn_cons_eq_ok_iff]
      constructor
      · rintro ⟨fields, field, later, hfield, hlater, -⟩
        exact ⟨⟨field, hfield⟩, later, hlater⟩
      · rintro ⟨⟨field, hfield⟩, later, hlater⟩
        exact ⟨_, field, later, hfield, hlater, rfl⟩

/-! ### What a line conveys -/

theorem lookup_eq_some_iff {name value : String} {fields : List (String × String)} :
    Telemetry.lookup name fields = some value ↔ FirstValue name fields value := by
  simp only [Telemetry.lookup, Option.map_eq_some_iff, List.find?_eq_some_iff_append]
  constructor
  · rintro ⟨⟨found, _⟩, ⟨hname, before, after, hfields, hbefore⟩, rfl⟩
    obtain rfl : found = name := by simpa using hname
    exact ⟨before, after, hfields, by simpa using hbefore⟩
  · rintro ⟨before, after, hfields, hbefore⟩
    exact ⟨(name, value), ⟨by simp, before, after, hfields, by simpa using hbefore⟩, rfl⟩

theorem lookup_eq_none_iff {name : String} {fields : List (String × String)} :
    Telemetry.lookup name fields = none ↔ ∀ field ∈ fields, field.1 ≠ name := by
  simp [Telemetry.lookup]

/-- A line whose fields are known tells its tick, its temperature and its flags, or none of them. -/
theorem parse_of_fields {line : String} {fields : List (String × String)}
    (hfields : Telemetry.fields? line = .ok fields) {t : Telemetry} :
    Telemetry.parse line = .ok t ↔
      t.fields = fields ∧
      unsigned64? ((Telemetry.lookup "tick" fields).getD "") = some t.tick ∧
      (∃ value, Telemetry.lookup "T_a" fields = some value ∧
        signed64? value = some t.hundredths) ∧
      t.flags = ((Telemetry.lookup "err" fields).map DeviceFlags.parse).getD DeviceFlags.none := by
  obtain ⟨tick, hundredths, flags, fields'⟩ := t
  simp only [Telemetry.parse, hfields, bind, Except.bind, pure, Except.pure]
  cases htick : unsigned64? ((Telemetry.lookup "tick" fields).getD "") with
  | none => simp
  | some number =>
      cases hvalue : Telemetry.lookup "T_a" fields with
      | none => simp
      | some value =>
          cases hdegrees : signed64? value with
          | none => simp [hdegrees]
          | some degrees =>
              simp [hdegrees]
              grind

theorem unsigned64?_eq_some_iff {value : String} {n : Nat} :
    unsigned64? value = some n ↔ Unsigned value.toList n ∧ n < 2 ^ 64 :=
  unsigned?_eq_some_iff

theorem signed64?_eq_some_iff {value : String} {n : Int} :
    signed64? value = some n ↔ Signed value.toList n ∧ -2 ^ 63 ≤ n ∧ n < 2 ^ 63 :=
  signed?_eq_some_iff (by decide)

theorem LineReads.bare {line : List Char} {fields : List (String × String)}
    (hreads : LineReads line fields) : ∀ field ∈ fields, Bare field.2.toList := by
  have hsegment {segment : List Char} {field : Option (String × String)}
      (hreads : SegmentReads segment field) : ∀ found ∈ field.toList, Bare found.2.toList := by
    cases hreads with
    | blank => exact nofun
    | field hkey hcolon hvalue => exact List.forall_mem_singleton.mpr hvalue
  induction hreads with
  | last hcomma hreads => exact hsegment hreads
  | more hcomma hreads hrest ih => exact List.forall_mem_append.mpr ⟨hsegment hreads, ih⟩

theorem raw_parse {value : String} (hvalue : Bare value.toList) :
    (DeviceFlags.parse value).raw = zeroFilled value := by
  have htrimmed := trimmed_of_bare AllBlank.nil hvalue AllBlank.nil
  rw [List.nil_append, List.append_nil] at htrimmed
  rw [DeviceFlags.parse, htrimmed, padStart, zeroFilled, String.length_toList]

theorem flags_eq_iff {fields : List (String × String)}
    (hbare : ∀ field ∈ fields, Bare field.2.toList) {flags : DeviceFlags} :
    flags = ((Telemetry.lookup "err" fields).map DeviceFlags.parse).getD DeviceFlags.none ↔
      (∃ value, FirstValue "err" fields value ∧ flags.raw = zeroFilled value) ∨
        (∀ field ∈ fields, field.1 ≠ "err") ∧ flags.raw = "000000" := by
  have hraw (other : DeviceFlags) : flags = other ↔ flags.raw = other.raw := by
    cases flags
    cases other
    simp
  rw [hraw, ← lookup_eq_none_iff]
  simp only [← lookup_eq_some_iff]
  cases hlookup : Telemetry.lookup "err" fields with
  | none =>
      have hdefault : DeviceFlags.none.raw = "000000" := rfl
      simp [hdefault]
  | some found =>
      obtain ⟨before, after, rfl, -⟩ := lookup_eq_some_iff.mp hlookup
      have hfound : Bare found.toList := hbare ("err", found) (by simp)
      simp [raw_parse hfound]

/-- A line that holds fields is read as what they tell, if they tell anything. -/
theorem parse_eq_ok_iff {line : String} {fields : List (String × String)}
    (hreads : LineReads line.toList fields) (t : Telemetry) :
    Telemetry.parse line = .ok t ↔ Conveys fields t := by
  have hfields : Telemetry.fields? line = .ok fields := lineReads_iff.mp hreads
  have hempty : unsigned64? "" = none := rfl
  rw [parse_of_fields hfields, flags_eq_iff hreads.bare]
  simp only [lookup_eq_some_iff, signed64?_eq_some_iff]
  have htick : unsigned64? ((Telemetry.lookup "tick" fields).getD "") = some t.tick ↔
      ∃ value, FirstValue "tick" fields value ∧ Unsigned value.toList t.tick ∧ t.tick < 2 ^ 64 := by
    simp only [← lookup_eq_some_iff, ← unsigned64?_eq_some_iff]
    cases Telemetry.lookup "tick" fields with
    | none => simp [hempty]
    | some found => simp
  rw [htick]
  exact ⟨fun ⟨hkept, hnumber, hdegrees, hflags⟩ => ⟨hkept, hnumber, hdegrees, hflags⟩,
    fun hconveys => ⟨hconveys.kept, hconveys.tick, hconveys.hundredths, hconveys.flags⟩⟩

theorem exists_lineReads_of_parse {line : String} {t : Telemetry}
    (hparse : Telemetry.parse line = .ok t) : ∃ fields, LineReads line.toList fields := by
  cases hfields : Telemetry.fields? line with
  | error error =>
      rw [Telemetry.parse, hfields] at hparse
      cases hparse
  | ok fields => exact ⟨fields, lineReads_iff.mpr hfields⟩

/-- A line is telemetry if all of it is fields, and the first tick and the first temperature are
numbers in their ranges. -/
theorem parse_isOk_iff {line : String} :
    (∃ t, Telemetry.parse line = .ok t) ↔
      (∀ segment ∈ line.toList.splitOn ',', ¬AllBlank segment → ':' ∈ segment) ∧
      ∃ fields, LineReads line.toList fields ∧
        (∃ value n, FirstValue "tick" fields value ∧ Unsigned value.toList n ∧ n < 2 ^ 64) ∧
        ∃ value n, FirstValue "T_a" fields value ∧ Signed value.toList n ∧ -2 ^ 63 ≤ n ∧
          n < 2 ^ 63 := by
  rw [← exists_lineReads_iff]
  constructor
  · rintro ⟨t, hparse⟩
    obtain ⟨fields, hreads⟩ := exists_lineReads_of_parse hparse
    have hconveys := (parse_eq_ok_iff hreads t).mp hparse
    obtain ⟨tick, htick⟩ := hconveys.tick
    obtain ⟨value, hvalue⟩ := hconveys.hundredths
    exact ⟨⟨fields, hreads⟩, fields, hreads, ⟨tick, t.tick, htick⟩, ⟨value, t.hundredths, hvalue⟩⟩
  · rintro ⟨-, fields, hreads, ⟨tick, n, htick⟩, ⟨value, degrees, hvalue⟩⟩
    let flags := ((Telemetry.lookup "err" fields).map DeviceFlags.parse).getD DeviceFlags.none
    have hconveys : Conveys fields { tick := n, hundredths := degrees, flags, fields } :=
      ⟨rfl, ⟨tick, htick⟩, ⟨value, hvalue⟩, (flags_eq_iff hreads.bare).mp rfl⟩
    exact ⟨_, (parse_eq_ok_iff hreads _).mpr hconveys⟩

end HeaterHost.Wire
