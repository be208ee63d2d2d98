import HeaterHost.Proofs.Simulator.LossyLine

/-!
# What moves leave as it was

Whatever happens on a line, the frames that were written stay the same and in the same order. Each
of them is handled, lost or still unread, and the board's power is that of the last power frame it
has handled. Every line of telemetry that is still to be read answers a query of its own, so that
there are never more of them than queries.
-/

namespace HeaterHost.Simulator

open Wire

def queries (bodies : List (List UInt8)) : Nat :=
  bodies.count DeviceCommand.queryTelemetry.body

theorem queries_cons (body : List UInt8) (bodies : List (List UInt8)) :
    queries (body :: bodies) =
      queries bodies + if body = DeviceCommand.queryTelemetry.body then 1 else 0 := by
  rw [queries, List.count_cons]
  simp [queries]

theorem queries_command {command : DeviceCommand Float} (hcommand : command ≠ .queryTelemetry) :
    queries [command.body] = 0 := by
  rw [queries_cons, if_neg (DeviceCommand.body_ne_query hcommand)]
  rfl

theorem queries_upload (gains : Gains Float) : queries [uploadBody gains] = 0 := by
  rw [queries_cons, if_neg (body_ne_uploadBody .queryTelemetry gains).symm]
  rfl

/-- The power of a board is the one it was told last, if it was told any. -/
def Tells (handled : List (List UInt8)) (power : Float) : Prop :=
  ∀ before last after, handled = before ++ (DeviceCommand.setPower last).body :: after →
    (∀ body ∈ after, ∀ other, body ≠ (DeviceCommand.setPower other).body) →
    power = Board.toldPower last

theorem Tells.concat {handled : List (List UInt8)} {power power' : Float} {body : List UInt8}
    (htells : Tells handled power)
    (htold : ∀ p, body = (DeviceCommand.setPower p).body → power' = Board.toldPower p)
    (huntold : (∀ p, body ≠ (DeviceCommand.setPower p).body) → power' = power) :
    Tells (handled ++ [body]) power' := by
  intro before last after hsplit hafter
  rcases List.eq_nil_or_concat after with rfl | ⟨after, final, rfl⟩
  · exact htold last (List.append_inj_right' hsplit rfl |> List.cons.inj |>.1)
  · rw [List.concat_eq_append] at hsplit hafter
    have hparts : handled ++ [body] =
        (before ++ (DeviceCommand.setPower last).body :: after) ++ [final] := by
      rw [hsplit, List.append_assoc, List.cons_append]
    obtain ⟨hhandled, hbody⟩ := List.append_inj' hparts rfl
    obtain rfl : body = final := (List.cons.inj hbody).1
    rw [huntold (hafter body (by simp))]
    exact htells before last after hhandled fun other hother => hafter other (by simp [hother])

namespace LossyLine

/-- A line on which only frames of a sensor were written, with a board whose flags do not break
its telemetry and whose power is the one it was told last. -/
structure Sound (gains : Gains Float) (l : LossyLine) : Prop where
  sent : ∀ body ∈ l.written, Sent gains body
  clean : l.far.board.Clean
  tells : Tells l.handled l.far.board.power

@[simp] theorem written_lose (l : LossyLine) : l.lose.written = l.written := by
  simp [written, lose, Function.comp_def]

@[simp] theorem handled_lose (l : LossyLine) : l.lose.handled = l.handled := by
  simp [handled, lose]

def orders (gains : Gains Float) (l : LossyLine) : List (List UInt8) :=
  l.written.filter (isOrder gains)

theorem orders_congr (gains : Gains Float) {l l' : LossyLine} (hwritten : l'.written = l.written) :
    l'.orders gains = l.orders gains := by
  rw [orders, hwritten, orders]

theorem orders_concat {gains : Gains Float} {l l' : LossyLine} {body : List UInt8}
    (hwritten : l'.written = l.written ++ [body]) (horder : isOrder gains body = true) :
    l'.orders gains = l.orders gains ++ [body] := by
  rw [orders, hwritten, List.filter_append, List.filter_cons_of_pos horder, orders]
  rfl

theorem orders_concat_of_not {gains : Gains Float} {l l' : LossyLine} {body : List UInt8}
    (hwritten : l'.written = l.written ++ [body]) (horder : isOrder gains body = false) :
    l'.orders gains = l.orders gains := by
  rw [orders, hwritten, List.filter_append, List.filter_cons_of_neg (by simp [horder]), orders]
  exact List.append_nil _

/-- What has become of a line after moves. -/
structure Advanced (gains : Gains Float) (l l' : LossyLine) : Prop where
  sound : l'.Sound gains
  written : l'.written = l.written
  unread : l'.unread <:+ l.unread
  answers : ∃ limit more, l'.far.replies = l.far.replies ++ more ∧ Frames limit more ∧
    queries l'.unread + limit ≤ queries l.unread

variable {gains : Gains Float} {l l' l'' : LossyLine}

theorem Sound.of_same (hsound : l.Sound gains) (hwritten : l'.written = l.written)
    (hhandled : l'.handled = l.handled) (hboard : l'.far.board = l.far.board) :
    l'.Sound gains := by
  refine ⟨?_, ?_, ?_⟩
  · rw [hwritten]
    exact hsound.sent
  · rw [hboard]
    exact hsound.clean
  · rw [hhandled, hboard]
    exact hsound.tells

/-- A change of the clock, of the turns or of the switches of the board. -/
theorem Advanced.of_same (hsound : l.Sound gains) (hfates : l'.fates = l.fates)
    (hunread : l'.unread = l.unread) (hboard : l'.far.board = l.far.board)
    (hreplies : l'.far.replies = l.far.replies) : Advanced gains l l' := by
  have hwritten : l'.written = l.written := by
    simp only [LossyLine.written, hfates, hunread]
  have hhandled : l'.handled = l.handled := by
    simp only [handled, hfates]
  refine ⟨hsound.of_same hwritten hhandled hboard, hwritten, ?_, 0, [], ?_, .nil, ?_⟩
  · exact hunread ▸ List.suffix_refl _
  · rw [hreplies, List.append_nil]
  · exact hunread ▸ Nat.le_refl _

theorem Advanced.refl (hsound : l.Sound gains) : Advanced gains l l :=
  .of_same hsound rfl rfl rfl rfl

theorem Advanced.trans (hfirst : Advanced gains l l') (hnext : Advanced gains l' l'') :
    Advanced gains l l'' := by
  obtain ⟨limit, more, hreplies, hframes, hqueries⟩ := hfirst.answers
  obtain ⟨limit', more', hreplies', hframes', hqueries'⟩ := hnext.answers
  refine ⟨hnext.sound, hnext.written.trans hfirst.written, hnext.unread.trans hfirst.unread,
    limit + limit', more ++ more', ?_, hframes.append hframes', ?_⟩
  · rw [hreplies', hreplies, List.append_assoc]
  · omega

theorem advanced_lose (hsound : l.Sound gains) : Advanced gains l l.lose :=
  ⟨hsound.of_same l.written_lose l.handled_lose rfl, l.written_lose, List.nil_suffix, 0, [],
    (List.append_nil _).symm, .nil, Nat.zero_le _⟩

/-- The line once its board has handled the frame that it took. -/
def taken (l : LossyLine) (body : List UInt8) (rest : List (List UInt8)) (far : BoardLine)
    (stream : BoardStream) : LossyLine :=
  { l with
    far := { far with stream := l.far.stream.map fun _ => stream }
    unread := rest
    fates := l.fates ++ [(body, true)] }

variable {body : List UInt8} {rest : List (List UInt8)} {far : BoardLine}
  {stream : BoardStream}

theorem written_taken (hunread : l.unread = body :: rest) :
    (l.taken body rest far stream).written = l.written := by
  simp [LossyLine.written, taken, hunread]

@[simp] theorem handled_taken :
    (l.taken body rest far stream).handled = l.handled ++ [body] := by
  simp [handled, taken]

theorem advanced_taken (hsound : l.Sound gains) (hunread : l.unread = body :: rest)
    (hhandle : l.far.handle (l.far.stream.getD { openedAt := l.now }) l.now body = (far, stream)) :
    Advanced gains l (l.taken body rest far stream) := by
  have hmem : body ∈ l.written := by
    rw [LossyLine.written, hunread]
    exact List.mem_append_right _ List.mem_cons_self
  have hdone := BoardLine.handled_sent hsound.clean (hsound.sent body hmem) hhandle
  have hwritten : (l.taken body rest far stream).written = l.written := written_taken hunread
  refine ⟨⟨?_, hdone.clean, ?_⟩, hwritten, ⟨[body], hunread.symm⟩, ?_⟩
  · rw [hwritten]
    exact hsound.sent
  · rw [handled_taken]
    exact hsound.tells.concat hdone.told hdone.untold
  · obtain ⟨more, hreplies, hframes⟩ := hdone.answers
    rw [hunread, queries_cons]
    cases hstream : l.far.stream with
    | none =>
        refine ⟨0, [], ?_, .nil, Nat.le_add_right _ _⟩
        simp [BoardLine.replies, taken, hstream]
    | some old =>
        refine ⟨_, more, ?_, hframes, Nat.le_refl _⟩
        rw [hstream] at hreplies
        simpa [BoardLine.replies, taken, hstream] using hreplies

theorem advanced_take (hsound : l.Sound gains) (hunread : l.unread = body :: rest) :
    Advanced gains l (l.take body rest) := by
  unfold take
  cases hhandle : l.far.handle (l.far.stream.getD { openedAt := l.now }) l.now body with
  | mk far stream =>
      have htaken := advanced_taken hsound hunread hhandle
      dsimp only
      split
      · exact htaken.trans (advanced_lose htaken.sound)
      · exact htaken

theorem advanced_cut (hsound : l.Sound gains) : Advanced gains l l.cut := by
  have hlose := advanced_lose hsound
  refine ⟨⟨hlose.sound.sent, hsound.clean, hlose.sound.tells⟩, hlose.written, hlose.unread, 0, [], ?_,
    .nil, Nat.zero_le _⟩
  rw [List.append_nil]
  cases hstream : l.far.stream with
  | none => simp [BoardLine.replies, cut, hstream]
  | some stream => simp [BoardLine.replies, cut, hstream]

theorem advanced_move (hsound : l.Sound gains) (m : Move) : Advanced gains l (l.move m) := by
  cases m with
  | handle =>
      unfold move
      dsimp only
      split
      · exact .refl hsound
      case h_2 body rest hunread =>
        split
        · exact .refl hsound
        · exact advanced_take hsound hunread
  | drop => exact advanced_cut hsound
  | switch switches => exact .of_same hsound rfl rfl rfl rfl
  | pass span => exact .of_same hsound rfl rfl rfl rfl

theorem advanced_moves (hsound : l.Sound gains) (ms : List Move) :
    Advanced gains l (l.moves ms) := by
  induction ms generalizing l with
  | nil => exact .refl hsound
  | cons m ms ih =>
      have hfirst := advanced_move hsound m
      exact hfirst.trans (ih hfirst.sound)

theorem advanced_begun (hsound : l.Sound gains) : Advanced gains l l.begun := by
  unfold begun
  split
  · exact .refl hsound
  case h_2 turn turns hturns =>
    have hturned : Advanced gains l { l with turns } := .of_same hsound rfl rfl rfl rfl
    exact hturned.trans (advanced_moves hturned.sound turn.moves)

/-! ### The operations of the host -/

theorem connect_ok (hsound : l.Sound gains) (hconnect : l.connect = (.ok (), l')) :
    l'.Sound gains ∧ l'.written = l.written ∧ l'.unread = [] ∧ l'.far.replies = [] := by
  have hbegun := advanced_begun hsound
  have hlose := advanced_lose hbegun.sound
  unfold connect BoardLine.connect at hconnect
  split at hconnect
  case h_1 far hfar =>
    split at hfar
    · cases hfar
    · cases hfar
      cases hconnect
      exact ⟨hlose.sound.of_same rfl rfl rfl,
        hlose.written.trans hbegun.written, rfl, rfl⟩
  case h_2 => cases hconnect

theorem connect_error {error : IoError} (hsound : l.Sound gains)
    (hconnect : l.connect = (.error error, l')) : Advanced gains l l' := by
  unfold connect BoardLine.connect at hconnect
  split at hconnect
  case h_1 => cases hconnect
  case h_2 other far hfar =>
    split at hfar
    · cases hfar
      cases hconnect
      exact advanced_begun hsound
    · cases hfar

theorem write_ok {bytes : List UInt8} (hsound : l.Sound gains)
    (hwrite : l.write bytes = (.ok (), l')) :
    ∃ begun, Advanced gains l begun ∧
      l' = { begun with unread := begun.unread ++ BoardLine.bodies bytes } := by
  unfold write at hwrite
  split at hwrite
  · cases hwrite
  · cases hwrite
    exact ⟨_, advanced_begun hsound, rfl⟩

theorem write_error {bytes : List UInt8} {error : IoError} (hsound : l.Sound gains)
    (hwrite : l.write bytes = (.error error, l')) : Advanced gains l l' := by
  unfold write at hwrite
  split at hwrite
  · cases hwrite
    exact advanced_begun hsound
  · cases hwrite

/-- What a read gives was there to be read, and nothing else changes. -/
theorem receive_data {bytes : List UInt8} {limit : Instant} (hsound : l.Sound gains)
    (hreceive : l.receive limit = (.data bytes, l')) :
    ∃ begun, Advanced gains l begun ∧ begun.far.replies = bytes ++ l'.far.replies ∧
      l'.Sound gains ∧ l'.written = begun.written ∧ l'.unread = begun.unread := by
  have hbegun := advanced_begun hsound
  unfold receive at hreceive
  split at hreceive
  · cases hreceive
  · split at hreceive
    · split at hreceive <;> cases hreceive
    case h_2 turn _ _ reply replies hreplies =>
      cases hreceive
      refine ⟨l.begun, hbegun, ?_, hbegun.sound.of_same rfl rfl rfl, rfl,
        rfl⟩
      cases hstream : l.begun.far.stream with
      | none => simp [BoardLine.replies, hstream] at hreplies
      | some stream =>
          simp only [BoardLine.replies, hstream, Option.map_some] at hreplies ⊢
          rw [hreplies]
          exact (List.take_append_drop _ _).symm

theorem receive_nothing {reception : Reception} {limit : Instant} (hsound : l.Sound gains)
    (hreceive : l.receive limit = (reception, l')) (hnothing : ∀ bytes, reception ≠ .data bytes) :
    Advanced gains l l' := by
  have hbegun := advanced_begun hsound
  unfold receive at hreceive
  split at hreceive
  · cases hreceive
    exact .of_same hsound rfl rfl rfl rfl
  · split at hreceive
    · split at hreceive
      · cases hreceive
        exact hbegun
      · cases hreceive
        exact hbegun.trans (.of_same hbegun.sound rfl rfl rfl rfl)
    · cases hreceive
      exact absurd rfl (hnothing _)

end LossyLine

end HeaterHost.Simulator
