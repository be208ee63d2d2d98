import HeaterHost.Proofs.Text.Cuts

/-!
# Searching a text

What stands at the start of a text, behind a phrase in it, and behind the last occurrence of a mark.
A phrase is found in one of two texts that follow each other, unless the second goes on with a
character of the phrase.
-/

namespace HeaterHost.Text

variable {cs ds : List Char}

/-! ### The start of a text -/

theorem afterStart_eq_some_iff {start rest : List Char} :
    afterStart start cs = some rest ↔ cs = start ++ rest := by
  fun_induction afterStart start cs with
  | case1 cs => simp [eq_comm]
  | case2 s start => simp
  | case3 s start c cs heq ih =>
      rw [ih, beq_iff_eq.mp heq, List.cons_append, List.cons.injEq, and_iff_right rfl]
  | case4 s start c cs hne =>
      refine iff_of_false nofun fun heq => hne ?_
      rw [(List.cons.inj heq).1, beq_self_eq_true]

theorem isSome_afterStart_iff {start : List Char} :
    (afterStart start cs).isSome = true ↔ start <+: cs := by
  rw [Option.isSome_iff_exists]
  simp only [afterStart_eq_some_iff]
  exact ⟨fun ⟨rest, heq⟩ => ⟨rest, heq.symm⟩, fun ⟨rest, heq⟩ => ⟨rest, heq.symm⟩⟩

/-- A start that does not reach into what follows a text is the start of the text. -/
theorem afterStart_append {start : List Char} (hds : ∀ d ∈ ds.head?, d ∉ start)
    (cs : List Char) (hne : start ≠ []) :
    afterStart start (cs ++ ds) = (afterStart start cs).map (· ++ ds) := by
  induction start generalizing cs with
  | nil => exact absurd rfl hne
  | cons s start ih =>
      have htail : ∀ d ∈ ds.head?, d ∉ start := fun d hd hmem =>
        hds d hd (List.mem_cons_of_mem _ hmem)
      cases cs with
      | nil =>
          cases ds with
          | nil => rfl
          | cons d ds =>
              have hd : s ≠ d := fun heq => hds d rfl (heq ▸ List.mem_cons_self)
              simp [afterStart, hd]
      | cons c cs =>
          rw [List.cons_append, afterStart, afterStart]
          by_cases hc : (s == c) = true
          · rw [if_pos hc, if_pos hc]
            cases start with
            | nil => rfl
            | cons t start => exact ih htail cs (List.cons_ne_nil t start)
          · rw [if_neg hc, if_neg hc]
            rfl

/-! ### The first occurrence of a phrase -/

variable {phrase : List Char}

theorem afterFirst_eq_some {rest : List Char} (hfound : afterFirst phrase cs = some rest) :
    ∃ before, cs = before ++ phrase ++ rest := by
  induction cs with
  | nil => exact ⟨[], afterStart_eq_some_iff.mp hfound⟩
  | cons c cs ih =>
      rw [afterFirst, Option.or_eq_some_iff] at hfound
      rcases hfound with hstart | ⟨-, hlater⟩
      · exact ⟨[], afterStart_eq_some_iff.mp hstart⟩
      · obtain ⟨before, rfl⟩ := ih hlater
        exact ⟨c :: before, rfl⟩

theorem isSome_afterFirst (before rest : List Char) :
    (afterFirst phrase (before ++ phrase ++ rest)).isSome = true := by
  induction before with
  | nil =>
      have hstart : afterStart phrase (phrase ++ rest) = some rest :=
        afterStart_eq_some_iff.mpr rfl
      cases hwhole : phrase ++ rest with
      | nil =>
          rw [hwhole] at hstart
          simp [hwhole, afterFirst, hstart]
      | cons c cs =>
          rw [hwhole] at hstart
          simp [hwhole, afterFirst, hstart]
  | cons c before ih =>
      rw [List.cons_append, List.cons_append, afterFirst, Option.isSome_or, ih, Bool.or_true]

/-- A phrase is found in a text or in what follows it, if it does not reach from one into the
other. -/
theorem afterFirst_append (hne : phrase ≠ []) (hds : ∀ d ∈ ds.head?, d ∉ phrase)
    (cs : List Char) :
    afterFirst phrase (cs ++ ds) =
      ((afterFirst phrase cs).map (· ++ ds)).or (afterFirst phrase ds) := by
  have hnil : afterStart phrase [] = none := by
    cases phrase with
    | nil => exact absurd rfl hne
    | cons => rfl
  induction cs with
  | nil => rw [List.nil_append, afterFirst, hnil, Option.map_none, Option.none_or]
  | cons c cs ih =>
      rw [List.cons_append, afterFirst, afterFirst, ← List.cons_append,
        afterStart_append hds _ hne, ih, Option.map_or, Option.or_assoc]

theorem afterFirst_eq_none {s : Char} (hs : s ∈ phrase) (hcs : s ∉ cs) :
    afterFirst phrase cs = none := by
  by_contra hfound
  obtain ⟨rest, hrest⟩ := Option.ne_none_iff_exists'.mp hfound
  obtain ⟨before, rfl⟩ := afterFirst_eq_some hrest
  exact hcs (by simp [hs])

/-- A phrase is not found among characters that it does not have. -/
theorem afterFirst_append_left (hne : phrase ≠ []) (hcs : ∀ c ∈ cs, c ∉ phrase) (ds : List Char) :
    afterFirst phrase (cs ++ ds) = afterFirst phrase ds := by
  induction cs with
  | nil => rfl
  | cons c cs ih =>
      obtain ⟨hc, hrest⟩ := List.forall_mem_cons.mp hcs
      have hstart : afterStart phrase (c :: (cs ++ ds)) = none := by
        cases phrase with
        | nil => exact absurd rfl hne
        | cons s phrase =>
            have hs : s ≠ c := fun heq => hc (heq ▸ List.mem_cons_self)
            rw [afterStart, if_neg (by simpa using hs)]
      rw [List.cons_append, afterFirst, hstart, Option.none_or, ih hrest]

/-- It makes no difference whether a text is trimmed before a phrase is searched in it, if what
follows the phrase is trimmed. -/
theorem afterFirst_trimmed (hne : phrase ≠ []) (hphrase : ∀ s ∈ phrase, isBlank s = false)
    (cs : List Char) :
    (afterFirst phrase (trimmed cs)).map trimmed = (afterFirst phrase cs).map trimmed := by
  have hblank : ∀ {ds : List Char}, AllBlank ds → ∀ d ∈ ds, d ∉ phrase := by
    intro ds hds d hd hmem
    exact notMem_of_allBlank (hphrase d hmem) hds hd
  obtain ⟨front, back, hfront, hback, hcs⟩ := exists_trimmed cs
  obtain ⟨s, hs⟩ := List.exists_mem_of_ne_nil phrase hne
  have hnone : afterFirst phrase back = none :=
    afterFirst_eq_none hs (notMem_of_allBlank (hphrase s hs) hback)
  have hwhole : afterFirst phrase (front ++ (trimmed cs ++ back)) =
      (afterFirst phrase (trimmed cs)).map (· ++ back) := by
    rw [afterFirst_append_left hne (hblank hfront), afterFirst_append hne
      fun d hd => hblank hback d (List.mem_of_mem_head? hd), hnone, Option.or_none]
  rw [← List.append_assoc, ← hcs] at hwhole
  rw [hwhole, Option.map_map]
  refine congrArg (Option.map · _) (funext fun rest => ?_)
  exact (trimmed_append_right hback rest).symm

/-- A text with one mark is cut at it in one way. -/
theorem eq_of_single_mark {mark : Char} {before before' after after' : List Char}
    (hbefore : mark ∉ before) (hafter : mark ∉ after)
    (heq : before ++ mark :: after = before' ++ mark :: after') :
    before = before' ∧ after = after' := by
  have hcount := congrArg (List.count mark) heq
  simp only [List.count_append, List.count_cons_self, List.count_eq_zero_of_not_mem hbefore,
    List.count_eq_zero_of_not_mem hafter] at hcount
  have hbefore' : mark ∉ before' := List.count_eq_zero.mp (by omega)
  have hcut := cutAt_append hbefore after
  rw [heq, cutAt_append hbefore'] at hcut
  cases hcut
  exact ⟨rfl, rfl⟩

/-- A phrase that ends with a mark is found where the mark is, if there is only one. -/
theorem afterFirst_marked {mark : Char} {stem before after : List Char} (hbefore : mark ∉ before)
    (hafter : mark ∉ after) :
    afterFirst (stem ++ [mark]) (before ++ mark :: after) =
      if stem <:+ before then some after else none := by
  have hcut : ∀ {rest}, afterFirst (stem ++ [mark]) (before ++ mark :: after) = some rest →
      stem <:+ before ∧ after = rest := by
    intro rest hrest
    obtain ⟨front, heq⟩ := afterFirst_eq_some hrest
    have hparts : before ++ mark :: after = (front ++ stem) ++ mark :: rest := by
      rw [heq]
      simp
    obtain ⟨rfl, hsame⟩ := eq_of_single_mark hbefore hafter hparts
    exact ⟨List.suffix_append front stem, hsame⟩
  split
  case isTrue hstem =>
    obtain ⟨front, rfl⟩ := hstem
    have hfound : (afterFirst (stem ++ [mark]) (front ++ (stem ++ [mark]) ++ after)).isSome = true :=
      isSome_afterFirst front after
    rw [← List.append_assoc, List.append_assoc, List.singleton_append] at hfound
    obtain ⟨rest, hrest⟩ := Option.isSome_iff_exists.mp hfound
    rw [hrest, (hcut hrest).2]
  case isFalse hstem =>
    by_contra hfound
    obtain ⟨rest, hrest⟩ := Option.ne_none_iff_exists'.mp hfound
    exact hstem (hcut hrest).1

/-! ### The last occurrence of a mark -/

theorem mark_notMem_afterLast (mark : Char) (cs : List Char) : mark ∉ afterLast mark cs := by
  intro hmem
  have hkept := List.mem_takeWhile_imp (List.mem_reverse.mp hmem)
  simp at hkept

end HeaterHost.Text
