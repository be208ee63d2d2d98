import HeaterHost.Text.Blank
import Mathlib.Data.List.TakeWhile

/-!
# Trimmed texts and their words

Trimming leaves a text alone that neither starts nor ends with white space, and the words of such
a text are what stands between its blanks.
-/

namespace HeaterHost.Text

variable {c : Char} {cs ds : List Char}

/-- A character without white space meaning stops the trimming from the left. -/
theorem dropWhile_isBlank_concat (hc : isBlank c = false) :
    (cs ++ [c]).dropWhile isBlank = cs.dropWhile isBlank ++ [c] := by
  rw [List.dropWhile_append]
  split
  case isTrue hempty =>
    rw [List.isEmpty_iff.mp hempty, List.dropWhile_cons_of_neg (by simp [hc])]
    rfl
  case isFalse => rfl

theorem trimmed_cons (hc : isBlank c = false) (cs : List Char) :
    ∃ rest, trimmed (c :: cs) = c :: rest := by
  refine ⟨(cs.reverse.dropWhile isBlank).reverse, ?_⟩
  rw [trimmed, stripBoth, List.dropWhile_cons_of_neg (by simp [hc]), List.reverse_cons,
    dropWhile_isBlank_concat hc, List.reverse_append]
  rfl

theorem trimmed_concat (hc : isBlank c = false) (hd : ∀ d ∈ cs.head?, isBlank d = false) :
    trimmed (cs ++ [c]) = cs ++ [c] := by
  have hfront : (cs ++ [c]).dropWhile isBlank = cs ++ [c] := by
    cases cs with
    | nil => exact List.dropWhile_cons_of_neg (by simp [hc])
    | cons d ds => exact List.dropWhile_cons_of_neg (by simp [hd d rfl])
  rw [trimmed, stripBoth, hfront, List.reverse_append, List.reverse_singleton,
    List.singleton_append, List.dropWhile_cons_of_neg (by simp [hc]), List.reverse_cons,
    List.reverse_reverse]

/-! ### Words -/

theorem words_of_no_blank (hne : cs ≠ []) (hcs : ∀ c ∈ cs, isBlank c = false) :
    words cs = [cs] := by
  rw [words, List.splitOnP_eq_singleton hcs, List.filter_cons_of_pos]
  · rfl
  · simpa using hne

/-- Words are cut apart by any white space between them. -/
theorem words_append_cons (hc : isBlank c = true) (cs ds : List Char) :
    words (cs ++ c :: ds) = words cs ++ words ds := by
  unfold words
  rw [List.splitOnP_append_cons cs ds hc, List.filter_append]

theorem words_cons (hc : isBlank c = true) (cs : List Char) : words (c :: cs) = words cs :=
  words_append_cons hc [] cs

/-- A word ends where white space follows it. -/
theorem words_append (hne : cs ≠ []) (hcs : ∀ c ∈ cs, isBlank c = false)
    (hds : ∀ d ∈ ds.head?, isBlank d = true) : words (cs ++ ds) = cs :: words ds := by
  cases ds with
  | nil =>
      rw [List.append_nil, words_of_no_blank hne hcs]
      rfl
  | cons d ds =>
      have hd : isBlank d = true := hds d rfl
      rw [words_append_cons hd, words_cons hd, words_of_no_blank hne hcs]
      rfl

/-! ### Solid texts -/

/-- Whether a character ends neither a word, nor a command, nor a frame. -/
def isSolid (c : Char) : Bool :=
  !isBlank c && c != ';' && c != '\x00'

structure Solid (cs : List Char) : Prop where
  ne_nil : cs ≠ []
  all : ∀ c ∈ cs, isSolid c = true

theorem isBlank_of_isSolid (hc : isSolid c = true) : isBlank c = false := by
  simp only [isSolid, Bool.and_eq_true, Bool.not_eq_true'] at hc
  exact hc.1.1

theorem ne_zero_of_isSolid (hc : isSolid c = true) : c ≠ '\x00' := by
  rintro rfl
  cases hc

namespace Solid

theorem of_all (hcs : (!cs.isEmpty && cs.all isSolid) = true) : Solid cs := by
  rw [Bool.and_eq_true] at hcs
  exact ⟨by simpa using hcs.1, List.all_eq_true.mp hcs.2⟩

theorem no_blank (hcs : Solid cs) : ∀ c ∈ cs, isBlank c = false := by
  intro c hc
  exact isBlank_of_isSolid (hcs.all c hc)

theorem zero_notMem (hcs : Solid cs) : '\x00' ∉ cs := by
  intro hmem
  exact ne_zero_of_isSolid (hcs.all _ hmem) rfl

theorem eq_concat (hcs : Solid cs) : ∃ front last, cs = front ++ [last] :=
  ⟨_, _, (List.dropLast_concat_getLast hcs.ne_nil).symm⟩

theorem words_eq (hcs : Solid cs) : words cs = [cs] :=
  words_of_no_blank hcs.ne_nil hcs.no_blank

theorem words_append (hcs : Solid cs) (hds : Solid ds) : words (cs ++ ' ' :: ds) = [cs, ds] := by
  rw [words_append_cons rfl, hcs.words_eq, hds.words_eq]
  rfl

/-- Trimming leaves a text alone that starts and ends with solid texts. -/
theorem trimmed_append (hcs : Solid cs) (hds : Solid ds) (between : List Char) :
    trimmed (cs ++ between ++ ds) = cs ++ between ++ ds := by
  obtain ⟨front, last, rfl⟩ := hds.eq_concat
  rw [← List.append_assoc]
  refine trimmed_concat (hds.no_blank last (by simp)) ?_
  cases cs with
  | nil => exact absurd rfl hcs.ne_nil
  | cons first rest =>
      intro d hd
      cases hd
      exact hcs.no_blank _ List.mem_cons_self

theorem trimmed_eq (hcs : Solid cs) : trimmed cs = cs := by
  obtain ⟨front, last, rfl⟩ := hcs.eq_concat
  refine trimmed_concat (hcs.no_blank last (by simp)) ?_
  intro d hd
  exact hcs.no_blank d (List.mem_append_left _ (List.mem_of_mem_head? hd))

end Solid

theorem words_eq_nil_iff : words cs = [] ↔ ∀ c ∈ cs, isBlank c = true := by
  unfold words
  rw [List.filter_eq_nil_iff]
  induction cs with
  | nil => simp
  | cons c cs ih =>
      rw [List.splitOnP_cons_eq_if_modifyHead]
      by_cases hblank : isBlank c = true
      · rw [if_pos hblank, List.forall_mem_cons, ih, List.forall_mem_cons]
        exact ⟨fun hrest => ⟨hblank, hrest.2⟩, fun hrest => ⟨by simp, hrest.2⟩⟩
      · rw [if_neg hblank]
        refine iff_of_false ?_ fun hall => hblank (hall c List.mem_cons_self)
        intro hall
        obtain ⟨word, rest, hsplit⟩ := List.exists_cons_of_ne_nil (List.splitOnP_ne_nil isBlank cs)
        rw [hsplit, List.modifyHead_cons] at hall
        exact hall (c :: word) List.mem_cons_self rfl

/-! ### White space around a text -/

def AllBlank (cs : List Char) : Prop :=
  ∀ c ∈ cs, isBlank c = true

instance (cs : List Char) : Decidable (AllBlank cs) :=
  List.decidableBAll (fun c => isBlank c = true) cs

/-- There is no white space around the text. -/
structure Bare (cs : List Char) : Prop where
  first : ∀ c ∈ cs.head?, isBlank c = false
  last : ∀ c ∈ cs.getLast?, isBlank c = false

theorem AllBlank.append (hcs : AllBlank cs) (hds : AllBlank ds) : AllBlank (cs ++ ds) := by
  intro c hc
  exact (List.mem_append.mp hc).elim (hcs c) (hds c)

theorem AllBlank.reverse (hcs : AllBlank cs) : AllBlank cs.reverse := by
  intro c hc
  exact hcs c (List.mem_reverse.mp hc)

theorem AllBlank.nil : AllBlank [] := by
  intro c hc
  cases hc

theorem words_append_left (hcs : AllBlank cs) (ds : List Char) : words (cs ++ ds) = words ds := by
  induction cs with
  | nil => rfl
  | cons c cs ih =>
      obtain ⟨hc, hrest⟩ := List.forall_mem_cons.mp hcs
      rw [List.cons_append, words_cons hc, ih hrest]

theorem Bare.nil : Bare [] :=
  ⟨nofun, nofun⟩

theorem Bare.reverse (hcs : Bare cs) : Bare cs.reverse :=
  ⟨by simpa using hcs.last, by simpa using hcs.first⟩

theorem Solid.bare (hcs : Solid cs) : Bare cs :=
  ⟨fun c hc => hcs.no_blank c (List.mem_of_mem_head? hc),
    fun c hc => hcs.no_blank c (List.mem_of_mem_getLast? hc)⟩

theorem dropWhile_of_bare {before after : List Char} (hbefore : AllBlank before) (hcs : Bare cs)
    (hafter : AllBlank after) :
    (before ++ cs ++ after).dropWhile isBlank = if cs = [] then [] else cs ++ after := by
  rw [List.append_assoc, List.dropWhile_append_of_pos hbefore]
  cases cs with
  | nil =>
      rw [if_pos rfl, List.nil_append]
      exact List.dropWhile_eq_nil_iff.mpr hafter
  | cons c cs =>
      rw [if_neg (List.cons_ne_nil c cs)]
      exact List.dropWhile_cons_of_neg (by simp [hcs.first c rfl])

/-- Trimming takes off the white space around a text and nothing else. -/
theorem trimmed_of_bare {before after : List Char} (hbefore : AllBlank before) (hcs : Bare cs)
    (hafter : AllBlank after) : trimmed (before ++ cs ++ after) = cs := by
  rw [trimmed, stripBoth, dropWhile_of_bare hbefore hcs hafter]
  split
  case isTrue hnil =>
    rw [hnil]
    rfl
  case isFalse hne =>
    have hend := dropWhile_of_bare hafter.reverse hcs.reverse AllBlank.nil
    rw [List.append_nil, List.append_nil, if_neg (by simpa using hne)] at hend
    rw [List.reverse_append, hend, List.reverse_reverse]

section Strip

variable (p : Char → Bool)

theorem dropWhile_eq_stripBoth_append (cs : List Char) :
    cs.dropWhile p = stripBoth p cs ++ ((cs.dropWhile p).reverse.takeWhile p).reverse := by
  rw [stripBoth, ← List.reverse_append, List.takeWhile_append_dropWhile, List.reverse_reverse]

theorem exists_stripBoth (cs : List Char) :
    ∃ before after, (∀ c ∈ before, p c = true) ∧ (∀ c ∈ after, p c = true) ∧
      cs = before ++ stripBoth p cs ++ after := by
  refine ⟨cs.takeWhile p, ((cs.dropWhile p).reverse.takeWhile p).reverse, ?_, ?_, ?_⟩
  · intro c hc
    exact List.mem_takeWhile_imp hc
  · intro c hc
    exact List.mem_takeWhile_imp (List.mem_reverse.mp hc)
  · rw [List.append_assoc, ← dropWhile_eq_stripBoth_append, List.takeWhile_append_dropWhile]

variable {p}

theorem of_head?_dropWhile (hc : (cs.dropWhile p).head? = some c) : p c = false := by
  have hhead := List.head?_dropWhile_not p cs
  rwa [hc] at hhead

theorem of_head?_stripBoth (hc : c ∈ (stripBoth p cs).head?) : p c = false := by
  have hhead : (cs.dropWhile p).head? = some c := by
    rw [dropWhile_eq_stripBoth_append, List.head?_append, hc]
    rfl
  exact of_head?_dropWhile hhead

theorem of_getLast?_stripBoth (hc : c ∈ (stripBoth p cs).getLast?) : p c = false := by
  rw [stripBoth, List.getLast?_reverse] at hc
  exact of_head?_dropWhile hc

end Strip

theorem exists_trimmed (cs : List Char) :
    ∃ before after, AllBlank before ∧ AllBlank after ∧ cs = before ++ trimmed cs ++ after :=
  exists_stripBoth isBlank cs

theorem bare_trimmed (cs : List Char) : Bare (trimmed cs) :=
  ⟨fun _ => of_head?_stripBoth, fun _ => of_getLast?_stripBoth⟩

theorem trimmed_eq_nil_iff : trimmed cs = [] ↔ AllBlank cs := by
  constructor
  · intro hnil
    obtain ⟨before, after, hbefore, hafter, hcs⟩ := exists_trimmed cs
    rw [hcs, hnil, List.append_nil]
    exact hbefore.append hafter
  · intro hcs
    have htrimmed := trimmed_of_bare hcs Bare.nil AllBlank.nil
    rwa [List.append_nil, List.append_nil] at htrimmed

theorem trimmed_append_left (hcs : AllBlank cs) (ds : List Char) :
    trimmed (cs ++ ds) = trimmed ds := by
  obtain ⟨before, after, hbefore, hafter, hds⟩ := exists_trimmed ds
  have htrimmed := trimmed_of_bare (hcs.append hbefore) (bare_trimmed ds) hafter
  rwa [List.append_assoc, List.append_assoc, ← List.append_assoc before, ← hds] at htrimmed

theorem trimmed_append_right (hds : AllBlank ds) (cs : List Char) :
    trimmed (cs ++ ds) = trimmed cs := by
  obtain ⟨before, after, hbefore, hafter, hcs⟩ := exists_trimmed cs
  have htrimmed := trimmed_of_bare hbefore (bare_trimmed cs) (hafter.append hds)
  rwa [← List.append_assoc, ← hcs] at htrimmed

/-- Trimming keeps the start of a text that has no white space around it. -/
theorem exists_trimmed_append (hcs : Bare cs) (hne : cs ≠ []) (ds : List Char) :
    ∃ rest, rest <+: ds ∧ trimmed (cs ++ ds) = cs ++ rest := by
  by_cases hblank : AllBlank ds
  · refine ⟨[], List.nil_prefix, ?_⟩
    rw [List.append_nil]
    exact trimmed_of_bare AllBlank.nil hcs hblank
  · obtain ⟨before, after, -, hafter, hds⟩ := exists_trimmed ds
    have hlast : trimmed ds ≠ [] := fun hnil => hblank (trimmed_eq_nil_iff.mp hnil)
    have hbare : Bare (cs ++ before ++ trimmed ds) := by
      constructor
      · intro c hc
        obtain ⟨first, front, rfl⟩ := List.exists_cons_of_ne_nil hne
        exact hcs.first c hc
      · intro c hc
        rw [List.getLast?_append, Option.or_of_isSome (List.getLast?_isSome.mpr hlast)] at hc
        exact (bare_trimmed ds).last c hc
    have hwhole : cs ++ before ++ trimmed ds ++ after = cs ++ ds := by
      rw [List.append_assoc cs, List.append_assoc cs, ← hds]
    have htrimmed := trimmed_of_bare AllBlank.nil hbare hafter
    rw [List.nil_append, hwhole, List.append_assoc] at htrimmed
    exact ⟨before ++ trimmed ds, ⟨after, hds.symm⟩, htrimmed⟩

/-! ### Cuts at a mark -/

theorem cutAt_append {mark : Char} {before : List Char} (hbefore : mark ∉ before)
    (after : List Char) : cutAt mark (before ++ mark :: after) = some (before, after) := by
  induction before with
  | nil => simp [cutAt]
  | cons c before ih =>
      have hc := List.ne_of_not_mem_cons hbefore
      have hrest := List.not_mem_of_not_mem_cons hbefore
      rw [List.cons_append, cutAt, if_neg (by simpa using Ne.symm hc), ih hrest]
      rfl

theorem cutAt_eq_none {mark : Char} (hcs : mark ∉ cs) : cutAt mark cs = none := by
  induction cs with
  | nil => rfl
  | cons c cs ih =>
      have hc := List.ne_of_not_mem_cons hcs
      have hrest := List.not_mem_of_not_mem_cons hcs
      rw [cutAt, if_neg (by simpa using Ne.symm hc), ih hrest]
      rfl

theorem cutAt_eq_some_iff {mark : Char} {before after : List Char} :
    cutAt mark cs = some (before, after) ↔ mark ∉ before ∧ cs = before ++ mark :: after := by
  constructor
  · intro hcut
    by_cases hmark : mark ∈ cs
    · obtain ⟨front, back, rfl, hfront⟩ := List.eq_append_cons_of_mem hmark
      rw [cutAt_append hfront] at hcut
      cases hcut
      exact ⟨hfront, rfl⟩
    · rw [cutAt_eq_none hmark] at hcut
      cases hcut
  · rintro ⟨hbefore, rfl⟩
    exact cutAt_append hbefore after

theorem notMem_of_allBlank {mark : Char} (hmark : isBlank mark = false) (hcs : AllBlank cs) :
    mark ∉ cs := by
  intro hmem
  rw [hcs mark hmem] at hmark
  cases hmark

/-- It makes no difference whether a text is trimmed before it is cut, if its parts are trimmed. -/
theorem cutAt_trimmed {mark : Char} (hmark : isBlank mark = false) {before after : List Char}
    (hcut : cutAt mark cs = some (before, after)) :
    ∃ before' after', cutAt mark (trimmed cs) = some (before', after') ∧
      trimmed before' = trimmed before ∧ trimmed after' = trimmed after := by
  obtain ⟨front, back, hfront, hback, hcs⟩ := exists_trimmed cs
  have hmem : mark ∈ trimmed cs := by
    obtain ⟨-, hparts⟩ := cutAt_eq_some_iff.mp hcut
    have hmem : mark ∈ front ++ trimmed cs ++ back := by
      rw [← hcs, hparts]
      simp
    simpa [notMem_of_allBlank hmark hfront, notMem_of_allBlank hmark hback] using hmem
  obtain ⟨before', after', htrimmed, hbefore'⟩ := List.eq_append_cons_of_mem hmem
  have hwhole : cs = (front ++ before') ++ mark :: (after' ++ back) := by
    rw [hcs, htrimmed]
    simp
  have hnotMem : mark ∉ front ++ before' := by
    simp [notMem_of_allBlank hmark hfront, hbefore']
  rw [hwhole, cutAt_append hnotMem] at hcut
  cases hcut
  exact ⟨before', after', cutAt_eq_some_iff.mpr ⟨hbefore', htrimmed⟩,
    (trimmed_append_left hfront before').symm, (trimmed_append_right hback after').symm⟩

end HeaterHost.Text
