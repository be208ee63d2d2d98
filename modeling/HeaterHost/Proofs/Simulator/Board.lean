import HeaterHost.Proofs.Decimal.RoundTrip
import HeaterHost.Proofs.Wire.Instructions

/-!
# What a simulated board does with a frame

A query is answered by at most one line of telemetry. No other instruction is answered by
telemetry, and none but the one for the power changes the power.
-/

namespace HeaterHost.Simulator

open Text Wire

/-- A line that is no telemetry and stays in its frame. -/
structure Quiet (reply : String) : Prop where
  start : ∃ c rest, reply.toList = c :: rest ∧ isBlank c = false ∧ c ≠ 't'
  whole : '\x00' ∉ reply.toList

theorem Quiet.isTelemetry_trim {reply : String} (hquiet : Quiet reply) :
    isTelemetry (trim reply) = false := by
  obtain ⟨c, rest, hreply, hblank, hne⟩ := hquiet.start
  obtain ⟨rest', htrimmed⟩ := trimmed_cons hblank rest
  simp [isTelemetry, trim, hreply, htrimmed, afterStart, Ne.symm hne]

namespace Board

/-- The flags stay in the frame of the telemetry that ends with them. -/
def Clean (b : Board) : Prop :=
  '\x00' ∉ b.flags.toList

@[simp] theorem advance_power (b : Board) (now : Instant) : (b.advance now).power = b.power := rfl

@[simp] theorem advance_flags (b : Board) (now : Instant) : (b.advance now).flags = b.flags := rfl

/-! ### Answers -/

theorem length_telemetry_le (b : Board) (s : Switches) : (b.telemetry s).length ≤ 1 := by
  unfold telemetry
  split
  · exact Nat.zero_le 1
  · split
    · exact Nat.le_refl 1
    · exact Nat.le_refl 1

theorem zero_notMem_natural (n : Nat) : '\x00' ∉ (toString n).toList :=
  (Decimal.solid_repr n).zero_notMem

theorem zero_notMem_integer (n : Int) : '\x00' ∉ (toString n).toList := by
  intro hmem
  exact ne_zero_of_isSolid (Decimal.isSolid_of_isNumeral (Decimal.allNumeral_intRepr n _ hmem)) rfl

theorem zero_notMem_telemetry {b : Board} (hclean : b.Clean) (s : Switches) :
    ∀ reply ∈ b.telemetry s, '\x00' ∉ reply.toList := by
  intro reply hreply
  have htick := zero_notMem_natural b.tick
  have hreading := zero_notMem_integer (Decimal.roundToSigned64 (b.model.measured * 100.0))
  have htarget := (Decimal.solid_plain b.target).zero_notMem
  have hpower := (Decimal.solid_fixed 3 b.power).zero_notMem
  have hflags : '\x00' ∉ b.flags.toList := hclean
  unfold telemetry at hreply
  split at hreply
  · cases hreply
  · split at hreply
    · rw [List.mem_singleton.mp hreply]
      simp [toString] at htick ⊢
      exact ⟨htick, hflags⟩
    · rw [List.mem_singleton.mp hreply]
      simp [toString] at htick hreading ⊢
      exact ⟨htick, hreading, htarget, hpower, hflags⟩

theorem quiet_gainsLine (b : Board) : Quiet b.gainsLine := by
  have hkp := (Decimal.solid_plain b.gains.kp).zero_notMem
  have hki := (Decimal.solid_plain b.gains.ki).zero_notMem
  have hkd := (Decimal.solid_plain b.gains.kd).zero_notMem
  refine ⟨⟨'k', _, by simp [gainsLine, toString]; rfl, rfl, by decide⟩, ?_⟩
  simp [gainsLine, toString]
  exact ⟨hkp, hki, hkd⟩

theorem quiet_console {line : String} (hline : Quiet line) (s : Switches) :
    ∀ reply ∈ console s line, Quiet reply := by
  intro reply hreply
  have hchatter : Quiet "ERROR heating slow" := ⟨⟨'E', _, rfl, rfl, by decide⟩, by decide⟩
  unfold console at hreply
  split at hreply
  · rcases List.mem_cons.mp hreply with rfl | hlast
    · exact hchatter
    · rwa [List.mem_singleton.mp hlast]
  · rwa [List.mem_singleton.mp hreply]

/-! ### Instructions -/

/-- What is left when a board has obeyed instructions that are no queries: it has said nothing that
passes for telemetry, and its power has changed only if that was among them. -/
structure Obeyed (b : Board) (row : List Instruction) (b' : Board) (replies : List String) :
    Prop where
  quiet : ∀ reply ∈ replies, Quiet reply
  clean : b.Clean → b'.Clean
  power : (∀ i ∈ row, i.name ≠ "pwr") → b'.power = b.power

theorem obeyed_setting {β : Type} (b : Board) (value? : Option β) {what text : String}
    (set : β → Board) {i : Instruction} (hwhat : '\x00' ∉ what.toList)
    (htext : '\x00' ∉ text.toList) (hclean : ∀ value, b.Clean → (set value).Clean)
    (hpower : i.name ≠ "pwr" → ∀ value, (set value).power = b.power) :
    b.Obeyed [i] (b.setting value? what text set).1 (b.setting value? what text set).2 := by
  cases value? with
  | some value =>
      exact ⟨by rintro _ ⟨⟩, hclean value, fun hrow => hpower (hrow i List.mem_cons_self) value⟩
  | none =>
      refine ⟨?_, id, fun _ => rfl⟩
      intro reply hreply
      rw [List.mem_singleton.mp hreply]
      refine ⟨⟨'E', _, by simp [toString]; rfl, rfl, by decide⟩, ?_⟩
      simpa [toString] using ⟨hwhat, htext⟩

theorem obey_of_not_query (b : Board) (s : Switches) (now : Instant) {i : Instruction}
    (hi : i.Legible) (hname : i.name ≠ "d") :
    ∃ b' replies, b.obey s now i.text i.name i.arg = some (b', replies) ∧
      b.Obeyed [i] b' replies := by
  have htext : '\x00' ∉ i.text.toList := hi.notMem_text rfl (by decide)
  have harg : ∀ arg, i.arg = some arg → '\x00' ∉ arg.toList := by
    intro arg harg
    exact (hi.arg arg harg).zero_notMem
  obtain ⟨name, arg⟩ := i
  unfold obey
  dsimp only at hname htext harg ⊢
  split
  case h_1 => exact absurd rfl hname
  case h_3 text =>
    exact ⟨_, _, rfl, obeyed_setting b _ _ (by decide) (harg _ rfl) (fun _ hb => hb)
      fun h => absurd rfl h⟩
  case h_8 =>
    have hcleared : '\x00' ∉ "000000".toList := by decide
    exact ⟨_, _, rfl, by simp, fun _ => hcleared, fun _ => rfl⟩
  case h_9 =>
    have hversion : Quiet ("version: " ++ firmware) :=
      ⟨⟨'v', _, by simp; rfl, rfl, by decide⟩, by decide⟩
    exact ⟨_, _, rfl, quiet_console hversion s, fun hb => hb, fun _ => rfl⟩
  case h_10 => exact ⟨_, _, rfl, quiet_console b.quiet_gainsLine s, fun hb => hb, fun _ => rfl⟩
  case h_11 =>
    refine ⟨_, _, rfl, ?_, fun hb => hb, fun _ => rfl⟩
    intro reply hreply
    rw [List.mem_singleton.mp hreply]
    refine ⟨⟨'E', _, by simp [toString]; rfl, rfl, by decide⟩, ?_⟩
    simpa [toString] using htext
  -- The other settings touch neither the power nor the flags.
  all_goals
    exact ⟨_, _, rfl, obeyed_setting b _ _ (by decide) (harg _ rfl) (fun _ hb => hb)
      fun _ _ => rfl⟩

/-! ### Frames -/

theorem obeyAll_cons (b : Board) (s : Switches) (now : Instant) {i : Instruction}
    (hi : i.Legible) (rest : List (List Char)) :
    b.obeyAll s now (i.text.toList :: rest) =
      match b.obey s now i.text i.name i.arg with
      | none => (b.advance now, none)
      | some (b, replies) =>
          ((b.obeyAll s now rest).1, (b.obeyAll s now rest).2.map (replies ++ ·)) := by
  have harg : i.arg.toList[0]? = i.arg := by cases i.arg <;> rfl
  cases hobey : b.obey s now i.text i.name i.arg with
  | none =>
      simp only [obeyAll, hi.words_text, String.ofList_toList, List.headD_cons,
        List.getElem?_cons_succ, harg, hobey]
  | some outcome =>
      simp only [obeyAll, hi.words_text, String.ofList_toList, List.headD_cons,
        List.getElem?_cons_succ, harg, hobey]

theorem obeyAll_of_no_query (b : Board) (s : Switches) (now : Instant) {row : List Instruction}
    (hrow : ∀ i ∈ row, i.Legible ∧ i.name ≠ "d") :
    ∃ b' replies, b.obeyAll s now (row.map fun i => i.text.toList) = (b', some replies) ∧
      b.Obeyed row b' replies := by
  induction row generalizing b with
  | nil => exact ⟨b, [], rfl, by simp, id, fun _ => rfl⟩
  | cons i row ih =>
      obtain ⟨⟨hi, hname⟩, hrest⟩ := List.forall_mem_cons.mp hrow
      obtain ⟨middle, first, hobey, hfirst⟩ := b.obey_of_not_query s now hi hname
      obtain ⟨b', more, hall, hmore⟩ := ih middle hrest
      refine ⟨b', first ++ more, ?_, ?_, fun hclean => hmore.clean (hfirst.clean hclean), ?_⟩
      · rw [List.map_cons, obeyAll_cons b s now hi, hobey]
        dsimp only
        rw [hall]
        rfl
      · exact List.forall_mem_append.mpr ⟨hfirst.quiet, hmore.quiet⟩
      · intro hpwr
        obtain ⟨hhead, htail⟩ := List.forall_mem_cons.mp hpwr
        exact (hmore.power htail).trans (hfirst.power (List.forall_mem_singleton.mpr hhead))

theorem handle_of_no_query (b : Board) (s : Switches) (now : Instant) {row : List Instruction}
    (hrow : ∀ i ∈ row, i.Legible ∧ i.name ≠ "d") :
    ∃ b' replies, b.handle s now (Instruction.frameText row) = (b', some replies) ∧
      b.Obeyed row b' replies := by
  rw [handle, Instruction.commands_frameText fun i hi => (hrow i hi).1]
  exact b.obeyAll_of_no_query s now hrow

/-- The power that a board sets when it is told one: what is left of it in three places, between
zero and one. -/
def toldPower (power : Float) : Float :=
  Scalar.clamp 0.0 1.0 ((Decimal.read? (Decimal.fixed 3 power)).getD 0.0)

theorem handle_setPower (b : Board) (s : Switches) (now : Instant) (power : Float) :
    b.handle s now ((DeviceCommand.setPower power).text ++ ";") =
      ({ b.advance now with power := toldPower power }, some []) := by
  have hread := Decimal.read?_fixed 3 power
  have hlegible := (DeviceCommand.setPower power).legible_instructions
  rw [DeviceCommand.text_eq, handle, Instruction.commands_frameText hlegible,
    DeviceCommand.instructions, List.map_singleton,
    obeyAll_cons b s now (hlegible _ List.mem_cons_self)]
  simp only [obey, hread, setting, toldPower, Option.getD_some]
  rfl

/-- A query changes neither the power nor the flags, and is answered by one line at most. -/
theorem handle_query (b : Board) (s : Switches) (now : Instant) (hclean : b.Clean) :
    ∃ b' answer, b.handle s now (DeviceCommand.queryTelemetry.text ++ ";") = (b', answer) ∧
      b'.power = b.power ∧ b'.Clean ∧
      ∀ replies, answer = some replies →
        replies.length ≤ 1 ∧ ∀ reply ∈ replies, '\x00' ∉ reply.toList := by
  have hlegible := DeviceCommand.queryTelemetry.legible_instructions
  rw [DeviceCommand.text_eq, handle, Instruction.commands_frameText hlegible,
    DeviceCommand.instructions, List.map_singleton,
    obeyAll_cons b s now (hlegible _ List.mem_cons_self)]
  by_cases htick : (b.advance now).tick < lastTick
  · let asked : Board := { b.advance now with tick := (b.advance now).tick + 1 }
    refine ⟨asked, some (asked.telemetry s), ?_, rfl, hclean, ?_⟩
    · simp only [obey, htick, ↓reduceIte, obeyAll, Option.map_some, List.append_nil, asked]
    · rintro replies ⟨⟩
      have hasked : asked.Clean := hclean
      exact ⟨asked.length_telemetry_le s, zero_notMem_telemetry hasked s⟩
  · refine ⟨b.advance now, none, ?_, rfl, hclean, by rintro _ ⟨⟩⟩
    simp only [obey, htick, ↓reduceIte]

end Board

end HeaterHost.Simulator
