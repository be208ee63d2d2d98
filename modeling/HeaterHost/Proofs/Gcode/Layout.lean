import HeaterHost.Gcode.Line
import HeaterHost.Proofs.Host.CommandLines
import HeaterHost.Proofs.NameMap
import HeaterHost.Proofs.Text.Cuts

/-!
# Layouts of command lines

A command line is a name and words with white space around them, and perhaps a comment behind. What
a line is read as is said by its name and by the values that it has for each key; nothing else of
its layout matters, and neither does the letter case of name and keys.
-/

namespace HeaterHost.Gcode

open Text

/-- There is neither white space in the text nor the mark that begins a comment. -/
def Unbroken (cs : List Char) : Prop :=
  ∀ c ∈ cs, isBlank c = false ∧ c ≠ ';'

instance (cs : List Char) : Decidable (Unbroken cs) :=
  List.decidableBAll (fun c => isBlank c = false ∧ c ≠ ';') cs

/-- What stands between two words: white space, at least one character of it. -/
structure Gap where
  text : List Char
  ne_nil : text ≠ []
  blank : AllBlank text

structure Param where
  key : List Char
  value : List Char
  key_unbroken : Unbroken key
  key_unmarked : '=' ∉ key
  value_unbroken : Unbroken value

inductive Word where
  | bare (text : List Char) (ne_nil : text ≠ []) (unbroken : Unbroken text) (unmarked : '=' ∉ text)
  | param (p : Param)

namespace Word

def text : Word → List Char
  | bare text .. => text
  | param p => p.key ++ '=' :: p.value

/-- The value that the word gives for a key, whatever the letter case of its own key. -/
def valueFor? (key : String) : Word → Option (List Char)
  | bare .. => none
  | param p => if asciiUpper p.key = key.toList then some p.value else none

end Word

/-- The parts of a line that has a command. -/
structure Layout where
  before : List Char
  name : List Char
  words : List (Gap × Word)
  after : List Char
  comment : Option (List Char)
  before_blank : AllBlank before
  name_ne_nil : name ≠ []
  name_unbroken : Unbroken name
  after_blank : AllBlank after

/-- Words, each behind its gap. -/
def rowText : List (Gap × Word) → List Char
  | [] => []
  | (gap, word) :: row => gap.text ++ word.text ++ rowText row

namespace Layout

/-- The white space behind the words, and the comment. -/
def tail (l : Layout) : List Char :=
  l.after ++ l.comment.elim [] fun text => ';' :: text

def line (l : Layout) : String :=
  String.ofList (l.before ++ l.name ++ rowText l.words ++ l.tail)

/-- The values for a key in their order. -/
def valuesOf (l : Layout) (key : String) : List (List Char) :=
  l.words.filterMap fun entry => entry.2.valueFor? key

end Layout

/-- The text is the raw one without the double quotes around it. -/
structure Unquoted (raw text : List Char) : Prop where
  parts : ∃ m n, raw = List.replicate m '"' ++ text ++ List.replicate n '"'
  first : text.head? ≠ some '"'
  last : text.getLast? ≠ some '"'

theorem unquoted_stripBoth (raw : List Char) : Unquoted raw (stripBoth (· == '"') raw) where
  parts := by
    obtain ⟨before, after, hbefore, hafter, hraw⟩ := exists_stripBoth (· == '"') raw
    refine ⟨before.length, after.length, ?_⟩
    rw [← List.eq_replicate_of_mem fun c hc => beq_iff_eq.mp (hbefore c hc),
      ← List.eq_replicate_of_mem fun c hc => beq_iff_eq.mp (hafter c hc)]
    exact hraw
  first hfirst := by
    have hquote := of_head?_stripBoth hfirst
    cases hquote
  last hlast := by
    have hquote := of_getLast?_stripBoth hlast
    cases hquote

/-! ### The words of a line -/

theorem Unbroken.no_blank {cs : List Char} (hcs : Unbroken cs) : ∀ c ∈ cs, isBlank c = false :=
  fun c hc => (hcs c hc).1

theorem Unbroken.bare {cs : List Char} (hcs : Unbroken cs) : Bare cs :=
  ⟨fun c hc => hcs.no_blank c (List.mem_of_mem_head? hc),
    fun c hc => hcs.no_blank c (List.mem_of_mem_getLast? hc)⟩

theorem Unbroken.append {cs ds : List Char} (hcs : Unbroken cs) (hds : Unbroken ds) :
    Unbroken (cs ++ ds) := by
  intro c hc
  exact (List.mem_append.mp hc).elim (hcs c) (hds c)

theorem Unbroken.notMem {cs : List Char} (hcs : Unbroken cs) : ';' ∉ cs := by
  intro hmem
  exact (hcs _ hmem).2 rfl

theorem Word.unbroken (word : Word) : Unbroken word.text := by
  cases word with
  | bare text _ unbroken _ => exact unbroken
  | param p =>
      refine p.key_unbroken.append fun c hc => ?_
      rcases List.mem_cons.mp hc with rfl | hc
      · decide
      · exact p.value_unbroken c hc

theorem Word.text_ne_nil (word : Word) : word.text ≠ [] := by
  cases word with
  | bare text ne_nil _ _ => exact ne_nil
  | param p => simp [Word.text]

/-- What follows a word in a row begins with white space, or with what follows the row. -/
theorem of_head?_rowText {p : Char → Prop} (hblank : ∀ c, isBlank c = true → p c)
    {row : List (Gap × Word)} {after : List Char} (hafter : ∀ c ∈ after.head?, p c) {c : Char}
    (hc : c ∈ (rowText row ++ after).head?) : p c := by
  cases row with
  | nil => exact hafter c hc
  | cons entry row =>
      obtain ⟨gap, word⟩ := entry
      rw [rowText, List.append_assoc, List.append_assoc, List.head?_append_of_ne_nil _ gap.ne_nil]
        at hc
      exact hblank c (gap.blank c (List.mem_of_mem_head? hc))

theorem words_rowText {after : List Char} (hafter : AllBlank after) (row : List (Gap × Word)) :
    words (rowText row ++ after) = row.map fun entry => entry.2.text := by
  have hhead : ∀ c ∈ after.head?, isBlank c = true := fun c hc =>
    hafter c (List.mem_of_mem_head? hc)
  induction row with
  | nil => exact words_eq_nil_iff.mpr hafter
  | cons entry row ih =>
      obtain ⟨gap, word⟩ := entry
      rw [rowText, List.append_assoc, List.append_assoc, words_append_left gap.blank,
        words_append word.text_ne_nil word.unbroken.no_blank
          fun c hc => of_head?_rowText (fun _ => id) hhead hc, ih]
      rfl

theorem notMem_rowText (row : List (Gap × Word)) : ';' ∉ rowText row := by
  induction row with
  | nil => exact List.not_mem_nil
  | cons entry row ih =>
      obtain ⟨gap, word⟩ := entry
      rw [rowText, List.mem_append, List.mem_append]
      rintro ((hgap | hword) | hrow)
      · exact notMem_of_allBlank rfl gap.blank hgap
      · exact word.unbroken.notMem hword
      · exact ih hrow

namespace Layout

variable (l : Layout)

/-- The words of a line end at its comment. -/
theorem code_line : Line.code l.line = l.before ++ l.name ++ rowText l.words ++ l.after := by
  have hcode : ∀ c ∈ l.before ++ l.name ++ rowText l.words ++ l.after, (c != ';') = true := by
    intro c hc
    simp only [bne_iff_ne]
    rintro rfl
    simp only [List.mem_append] at hc
    rcases hc with ((hbefore | hname) | hrow) | hafter
    · exact notMem_of_allBlank rfl l.before_blank hbefore
    · exact l.name_unbroken.notMem hname
    · exact notMem_rowText l.words hrow
    · exact notMem_of_allBlank rfl l.after_blank hafter
  rw [Line.code, line, tail, String.toList_ofList, ← List.append_assoc,
    List.takeWhile_append_of_pos hcode]
  cases l.comment with
  | none => exact List.append_nil _
  | some text => exact List.append_nil _

theorem words_line :
    Text.words (Line.code l.line) = l.name :: l.words.map fun entry => entry.2.text := by
  have hhead : ∀ c ∈ l.after.head?, isBlank c = true := fun c hc =>
    l.after_blank c (List.mem_of_mem_head? hc)
  rw [l.code_line, List.append_assoc, List.append_assoc, words_append_left l.before_blank,
    words_append l.name_ne_nil l.name_unbroken.no_blank
      fun c hc => of_head?_rowText (fun _ => id) hhead hc, words_rowText l.after_blank]

end Layout

/-- A line ends with its code, or goes on with a comment. -/
theorem toList_eq_code (text : String) :
    text.toList = Line.code text ∨ ∃ comment, text.toList = Line.code text ++ ';' :: comment := by
  have hparts : Line.code text ++ text.toList.dropWhile (· != ';') = text.toList :=
    List.takeWhile_append_dropWhile
  cases hrest : text.toList.dropWhile (· != ';') with
  | nil =>
      rw [hrest, List.append_nil] at hparts
      exact .inl hparts.symm
  | cons mark comment =>
      have hhead : (text.toList.dropWhile (· != ';')).head? = some mark := by
        rw [hrest]
        rfl
      have hmark := of_head?_dropWhile hhead
      rw [hrest, bne_eq_false_iff_eq.mp hmark] at hparts
      exact .inr ⟨comment, hparts.symm⟩

theorem code_of_comment {text : String} {before comment : List Char} (hbefore : ';' ∉ before)
    (htext : text.toList = before ++ ';' :: comment) : Line.code text = before := by
  have hkept : ∀ c ∈ before, (c != ';') = true := by
    intro c hc
    exact bne_iff_ne.mpr fun heq => hbefore (heq ▸ hc)
  rw [Line.code, htext, List.takeWhile_append_of_pos hkept, List.takeWhile_cons_of_neg (by simp),
    List.append_nil]

/-! ### The parameters of a line -/

def Word.setting? : Word → Option (String × String)
  | .bare .. => none
  | .param p =>
      some (String.ofList (asciiUpper p.key), String.ofList (stripBoth (· == '"') p.value))

theorem param?_text (word : Word) : Line.param? word.text = word.setting? := by
  cases word with
  | bare text _ _ unmarked => rw [Word.text, Line.param?, cutAt_eq_none unmarked]; rfl
  | param p => rw [Word.text, Line.param?, cutAt_append p.key_unmarked]; rfl

namespace Layout

variable (l : Layout)

theorem parse?_line :
    Line.parse? l.line = some {
      name := String.ofList (asciiUpper l.name)
      params := NameMap.ofList (l.words.filterMap fun entry => entry.2.setting?) } := by
  have hparams : (l.words.map fun entry => entry.2.text).filterMap Line.param? =
      l.words.filterMap fun entry => entry.2.setting? := by
    rw [List.filterMap_map]
    exact List.filterMap_congr fun entry _ => param?_text entry.2
  rw [Line.parse?, l.words_line]
  simp only [hparams]

/-- The parameter of a key is the last value that the line has for it, without its quotes. -/
theorem get?_params (key : String) :
    (NameMap.ofList (l.words.filterMap fun entry => entry.2.setting?)).get? key =
      (l.valuesOf key).getLast?.map fun raw => String.ofList (stripBoth (· == '"') raw) := by
  have hvalues : ((l.words.filterMap fun entry => entry.2.setting?).filter (·.1 == key)).map (·.2) =
      (l.valuesOf key).map fun raw => String.ofList (stripBoth (· == '"') raw) := by
    rw [List.filter_filterMap, List.map_filterMap, valuesOf, List.map_filterMap]
    refine List.filterMap_congr fun entry _ => ?_
    obtain ⟨gap, _ | p⟩ := entry
    · rfl
    · by_cases hkey : asciiUpper p.key = key.toList
      · simp [Word.setting?, Word.valueFor?, hkey]
      · have hne : String.ofList (asciiUpper p.key) ≠ key := by
          rintro rfl
          exact hkey String.toList_ofList.symm
        simp [Word.setting?, Word.valueFor?, hkey, hne]
  rw [NameMap.get?_ofList, ← List.getLast?_map, hvalues, List.getLast?_map]

end Layout

/-- A line is read the same in every layout. Its command has the name in upper case, and for each
key the last value that the line has for it, without the double quotes around it, or nothing if the
line has none; so lines are read alike that differ in white space, comments, words without an equals
sign, the letter case of name and keys, and the order of parameters with different keys. A line has
no command exactly if there is only white space before its comment. -/
theorem parse_ignores_layout (l : Layout) :
    (∃ command, Line.parse? l.line = some command ∧
      command.name = String.ofList (asciiUpper l.name) ∧
      ∀ key, (l.valuesOf key = [] → command.get? key = none) ∧
        ∀ raw, (l.valuesOf key).getLast? = some raw →
          ∃ value, command.get? key = some value ∧ Unquoted raw value.toList) ∧
    (∀ l' : Layout, asciiUpper l'.name = asciiUpper l.name →
      (∀ key, l'.valuesOf key = l.valuesOf key) → Line.parse? l'.line = Line.parse? l.line) ∧
    ∀ text, Line.parse? text = none ↔
      ∃ before, AllBlank before ∧
        (text.toList = before ∨ ∃ comment, text.toList = before ++ ';' :: comment) := by
  refine ⟨⟨_, l.parse?_line, rfl, ?_⟩, ?_, ?_⟩
  · intro key
    constructor
    · intro hnone
      rw [Line.get?, l.get?_params, hnone]
      rfl
    · intro raw hraw
      refine ⟨_, by rw [Line.get?, l.get?_params, hraw, Option.map_some], ?_⟩
      rw [String.toList_ofList]
      exact unquoted_stripBoth raw
  · intro l' hname hvalues
    rw [l'.parse?_line, l.parse?_line, hname]
    congr 2
    refine (NameMap.sorted_ofList _).ext (NameMap.sorted_ofList _) fun key => ?_
    rw [l'.get?_params, l.get?_params, hvalues]
  · intro text
    rw [Line.parse?_eq_none_iff]
    constructor
    · intro hblank
      exact ⟨Line.code text, hblank, toList_eq_code text⟩
    · rintro ⟨before, hbefore, htext | ⟨comment, htext⟩⟩
      · intro c hc
        exact hbefore c (htext ▸ (List.takeWhile_sublist _).subset hc)
      · rw [code_of_comment (notMem_of_allBlank rfl hbefore) htext]
        exact hbefore

def space : Gap where
  text := [' ']
  ne_nil := List.cons_ne_nil _ _
  blank := by decide

def tuningLine : Layout where
  before := []
  name := "set_pid_values".toList
  words := [
    (space, .param ⟨"heater".toList, "extruder".toList, by decide, by decide,
      by decide⟩),
    (space, .param ⟨"Kp".toList, "20".toList, by decide, by decide,
      by decide⟩),
    (space, .param ⟨"ki".toList, "\"1.5\"".toList, by decide, by decide,
      by decide⟩)]
  after := [' ']
  comment := some " note".toList
  before_blank := by decide
  name_ne_nil := by decide
  name_unbroken := by decide
  after_blank := by decide

def rearrangedLine : Layout where
  before := ['\t']
  name := "SET_PID_VALUES".toList
  words := [
    (space, .param ⟨"KI".toList, "\"1.5\"".toList, by decide, by decide,
      by decide⟩),
    (space, .bare "quiet".toList (by decide) (by decide) (by decide)),
    (space, .param ⟨"HEATER".toList, "extruder".toList, by decide, by decide,
      by decide⟩),
    (space, .param ⟨"KP".toList, "20".toList, by decide, by decide,
      by decide⟩)]
  after := []
  comment := none
  before_blank := by decide
  name_ne_nil := by decide
  name_unbroken := by decide
  after_blank := by decide

theorem rearranged_valuesOf (key : String) :
    rearrangedLine.valuesOf key = tuningLine.valuesOf key := by
  by_cases hkey : key ∈ ["HEATER", "KP", "KI"]
  · simp only [List.mem_cons, List.not_mem_nil, or_false] at hkey
    rcases hkey with rfl | rfl | rfl <;> decide
  · obtain ⟨hheater, hkp, hki⟩ : key ≠ "HEATER" ∧ key ≠ "KP" ∧ key ≠ "KI" := by simpa using hkey
    have hother : ∀ {own : List Char} {known : String}, key ≠ known →
        asciiUpper own = known.toList → asciiUpper own ≠ key.toList := by
      intro own known hne hown heq
      exact hne (String.toList_injective (heq.symm.trans hown))
    have htuning : tuningLine.valuesOf key = [] := by
      refine List.filterMap_eq_nil_iff.mpr (List.forall_mem_cons.mpr ⟨?_,
        List.forall_mem_cons.mpr ⟨?_, List.forall_mem_singleton.mpr ?_⟩⟩)
      · exact if_neg (hother hheater rfl)
      · exact if_neg (hother hkp rfl)
      · exact if_neg (hother hki rfl)
    rw [htuning]
    refine List.filterMap_eq_nil_iff.mpr (List.forall_mem_cons.mpr ⟨?_,
      List.forall_mem_cons.mpr ⟨rfl, List.forall_mem_cons.mpr ⟨?_,
        List.forall_mem_singleton.mpr ?_⟩⟩⟩)
    · exact if_neg (hother hki rfl)
    · exact if_neg (hother hheater rfl)
    · exact if_neg (hother hkp rfl)

theorem tuning_rearranged :
    tuningLine.line = "set_pid_values heater=extruder Kp=20 ki=\"1.5\" ; note" ∧
    rearrangedLine.line = "\tSET_PID_VALUES KI=\"1.5\" quiet HEATER=extruder KP=20" ∧
    Line.parse? rearrangedLine.line = Line.parse? tuningLine.line :=
  ⟨by decide, by decide,
    (parse_ignores_layout tuningLine).2.1 rearrangedLine (by decide) rearranged_valuesOf⟩

end HeaterHost.Gcode
