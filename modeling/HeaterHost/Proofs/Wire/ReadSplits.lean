import HeaterHost.Proofs.Text.Cuts
import HeaterHost.Proofs.Wire.FrameStream

/-!
# How a stream is split into reads

What a decoder has given out, once it has nothing more to give, depends on the bytes it was handed
and not on how they were cut into reads or when it was asked for a frame. `StreamReads` says what a
stream holds without a decoder: a stream is cut at its zero bytes, each frame is judged by itself,
and a last frame whose end has not arrived counts only once it is too long.
-/

namespace HeaterHost.Wire

open Text (AllBlank Bare)

/-- What the bytes between two zero bytes stand for. The white space around a text does not count,
and a text without anything else is passed over. -/
inductive BodyReads : List UInt8 → Option FrameResult → Prop
  | overflow {body : List UInt8} (hlong : 512 < body.length) :
      BodyReads body (some (.error .overflow))
  | notUtf8 {body : List UInt8} (hshort : body.length ≤ 512)
      (hinvalid : ∀ text, Text.bytes text ≠ body) : BodyReads body (some (.error .notUtf8))
  | text {text frame : String} {before after : List Char}
      (hshort : (Text.bytes text).length ≤ 512)
      (htext : text.toList = before ++ frame.toList ++ after) (hbefore : AllBlank before)
      (hafter : AllBlank after) (hbare : Bare frame.toList) (hne : frame ≠ "") :
      BodyReads (Text.bytes text) (some (.ok frame))
  | blank {text : String} (hshort : (Text.bytes text).length ≤ 512)
      (hblank : AllBlank text.toList) : BodyReads (Text.bytes text) none

inductive StreamReads : List UInt8 → List FrameResult → Prop
  | ended {tail : List UInt8} (htail : 0 ∉ tail) (hshort : tail.length ≤ 512) :
      StreamReads tail []
  | overrun {tail : List UInt8} (htail : 0 ∉ tail) (hlong : 512 < tail.length) :
      StreamReads tail [.error .overflow]
  | frame {body rest : List UInt8} {result : Option FrameResult} {results : List FrameResult}
      (hbody : 0 ∉ body) (hread : BodyReads body result) (hrest : StreamReads rest results) :
      StreamReads (body ++ 0 :: rest) (result.toList ++ results)

theorem bytes_of_fromUTF8? {body : List UInt8} {text : String}
    (hread : String.fromUTF8? ⟨body.toArray⟩ = some text) : Text.bytes text = body := by
  rw [String.fromUTF8?] at hread
  split at hread
  · obtain rfl := Option.some.inj hread
    rw [Text.bytes, Text.toList_eq]
    rfl
  · cases hread

theorem readBody_of_invalid {body : List UInt8} (hshort : body.length ≤ 512)
    (hinvalid : ∀ text, Text.bytes text ≠ body) : readBody body = some (.error .notUtf8) := by
  have hread : String.fromUTF8? ⟨body.toArray⟩ = none := by
    rw [Option.eq_none_iff_forall_ne_some]
    intro text hread
    exact hinvalid text (bytes_of_fromUTF8? hread)
  rw [readBody, if_neg (show ¬maxFrameLength < body.length from Nat.not_lt_of_le hshort), hread]

theorem readBody_bytes {text : String} (hshort : (Text.bytes text).length ≤ 512) :
    readBody (Text.bytes text) =
      if Text.trim text = "" then none else some (.ok (Text.trim text)) := by
  rw [readBody, if_neg (show ¬maxFrameLength < _ from Nat.not_lt_of_le hshort),
    Text.fromUTF8?_bytes]
  simp

theorem trim_eq_empty_iff {text : String} : Text.trim text = "" ↔ AllBlank text.toList := by
  rw [Text.trim, String.ofList_eq_empty_iff]
  exact Text.trimmed_eq_nil_iff

theorem trim_of_bare {text frame : String} {before after : List Char}
    (htext : text.toList = before ++ frame.toList ++ after) (hbefore : AllBlank before)
    (hafter : AllBlank after) (hbare : Bare frame.toList) : Text.trim text = frame := by
  rw [Text.trim, htext, Text.trimmed_of_bare hbefore hbare hafter, String.ofList_toList]

theorem bodyReads_readBody (body : List UInt8) : BodyReads body (readBody body) := by
  by_cases hlong : 512 < body.length
  · rw [FrameDecoder.readBody_of_long hlong]
    exact .overflow hlong
  have hshort : body.length ≤ 512 := Nat.le_of_not_lt hlong
  by_cases hvalid : ∃ text, Text.bytes text = body
  · obtain ⟨text, rfl⟩ := hvalid
    rw [readBody_bytes hshort]
    by_cases htext : Text.trim text = ""
    · rw [if_pos htext]
      exact .blank hshort (trim_eq_empty_iff.mp htext)
    · rw [if_neg htext]
      have hframe : (Text.trim text).toList = Text.trimmed text.toList := String.toList_ofList
      obtain ⟨before, after, hbefore, hafter, hsplit⟩ := Text.exists_trimmed text.toList
      have hbare := Text.bare_trimmed text.toList
      rw [← hframe] at hsplit hbare
      exact .text hshort hsplit hbefore hafter hbare htext
  · have hinvalid : ∀ text, Text.bytes text ≠ body := not_exists.mp hvalid
    rw [readBody_of_invalid hshort hinvalid]
    exact .notUtf8 hshort hinvalid

theorem BodyReads.eq_readBody {body : List UInt8} {result : Option FrameResult}
    (hreads : BodyReads body result) : result = readBody body := by
  cases hreads with
  | overflow hlong => exact (FrameDecoder.readBody_of_long hlong).symm
  | notUtf8 hshort hinvalid => exact (readBody_of_invalid hshort hinvalid).symm
  | text hshort htext hbefore hafter hbare hne =>
      rw [readBody_bytes hshort, trim_of_bare htext hbefore hafter hbare, if_neg hne]
  | blank hshort hblank => rw [readBody_bytes hshort, if_pos (trim_eq_empty_iff.mpr hblank)]

theorem outcomes_tail {tail : List UInt8} (htail : 0 ∉ tail) :
    FrameDecoder.outcomes false [] tail = if 512 < tail.length then [.error .overflow] else [] := by
  have hend : FrameDecoder.outcomes false [] (tail ++ []) =
      FrameDecoder.outcomes false (tail.reverse ++ []) [] :=
    FrameDecoder.outcomes_of_no_terminator htail []
  rw [List.append_nil, List.append_nil] at hend
  rw [hend, FrameDecoder.outcomes, List.length_reverse]
  simp [maxFrameLength]

theorem StreamReads.eq_outcomes {stream : List UInt8} {results : List FrameResult}
    (hreads : StreamReads stream results) : results = FrameDecoder.outcomes false [] stream := by
  induction hreads with
  | ended htail hshort => rw [outcomes_tail htail, if_neg (Nat.not_lt_of_le hshort)]
  | overrun htail hlong => rw [outcomes_tail htail, if_pos hlong]
  | @frame body rest result results hbody hread hrest ih =>
      have hframe := FrameDecoder.outcomes_frame hbody rest
      rw [FrameDecoder.frame, List.append_assoc, List.singleton_append] at hframe
      rw [hread.eq_readBody, ih]
      exact hframe.symm

/-- The body of the frame that is being read is on the stream before the bytes to come. -/
theorem streamReads_outcomes {body : List UInt8} (hbody : 0 ∉ body) (bytes : List UInt8) :
    StreamReads (body.reverse ++ bytes) (FrameDecoder.outcomes false body bytes) := by
  induction bytes generalizing body with
  | nil =>
      have htail : 0 ∉ body.reverse ++ [] := by simpa using hbody
      by_cases hlong : 512 < body.length
      · rw [FrameDecoder.outcomes, if_pos ⟨hlong, rfl⟩]
        exact .overrun htail (by simpa using hlong)
      · rw [FrameDecoder.outcomes, if_neg fun h => hlong h.1]
        exact .ended htail (by simpa using hlong)
  | cons byte rest ih =>
      rw [FrameDecoder.outcomes]
      by_cases hbyte : byte = terminator
      · obtain rfl := hbyte
        rw [if_pos rfl]
        exact .frame (by simpa using hbody) (bodyReads_readBody _) (ih List.not_mem_nil)
      · rw [if_neg hbyte]
        have hlonger := ih (List.not_mem_cons_of_ne_of_not_mem (Ne.symm hbyte) hbody)
        rwa [List.reverse_cons, List.append_assoc, List.singleton_append] at hlonger

theorem streamReads_iff {stream : List UInt8} {results : List FrameResult} :
    StreamReads stream results ↔ results = FrameDecoder.outcomes false [] stream := by
  constructor
  · exact StreamReads.eq_outcomes
  · rintro rfl
    exact streamReads_outcomes List.not_mem_nil stream

/-! ### Reads and requests -/

inductive DecoderCall where
  | push (bytes : List UInt8)
  | next
deriving Repr, DecidableEq

/-- A decoder together with all that it has given out, oldest first. -/
structure Decoding where
  decoder : FrameDecoder := {}
  results : List FrameResult := []
deriving Repr

def DecoderCall.received : DecoderCall → List UInt8
  | .push bytes => bytes
  | .next => []

namespace Decoding

def call (g : Decoding) : DecoderCall → Decoding
  | .push bytes => { g with decoder := g.decoder.push bytes }
  | .next =>
      { decoder := g.decoder.next.2, results := g.results ++ g.decoder.next.1.toList }

def calls (g : Decoding) (cs : List DecoderCall) : Decoding :=
  cs.foldl call g

/-- A decoder that has just answered that there is no frame. -/
def Exhausted (g : Decoding) : Prop :=
  g.decoder.next.1 = none

variable (g : Decoding)

theorem calls_append (cs later : List DecoderCall) :
    g.calls (cs ++ later) = (g.calls cs).calls later :=
  List.foldl_append

/-- What has been given out and what is still to be given out do not change with a call. -/
theorem outlook_call (c : DecoderCall) (ahead : List UInt8) :
    (g.call c).results ++ (g.call c).decoder.outlook ahead =
      g.results ++ g.decoder.outlook (c.received ++ ahead) := by
  cases c with
  | push bytes => exact congrArg (g.results ++ ·) (g.decoder.outlook_push bytes ahead)
  | next =>
      change (g.results ++ g.decoder.next.1.toList) ++ g.decoder.next.2.outlook ahead =
        g.results ++ g.decoder.outlook ahead
      rw [List.append_assoc, ← FrameDecoder.outlook_next]

theorem outlook_calls (cs : List DecoderCall) (ahead : List UInt8) :
    (g.calls cs).results ++ (g.calls cs).decoder.outlook ahead =
      g.results ++ g.decoder.outlook (cs.flatMap DecoderCall.received ++ ahead) := by
  induction cs generalizing g with
  | nil => rfl
  | cons c rest ih =>
      change ((g.call c).calls rest).results ++ ((g.call c).calls rest).decoder.outlook ahead = _
      rw [ih, outlook_call, List.flatMap_cons, List.append_assoc]

end Decoding

theorem outcomes_eq_nil_of_scan {discarding : Bool} {body bytes : List UInt8}
    (hnone : (FrameDecoder.scan discarding body bytes).1 = none) :
    FrameDecoder.outcomes discarding body bytes = [] := by
  induction bytes generalizing discarding body with
  | nil =>
      rw [FrameDecoder.scan] at hnone
      rw [FrameDecoder.outcomes]
      by_cases hlong : maxFrameLength < body.length
      · rw [if_pos hlong] at hnone
        cases discarding with
        | true => simp
        | false => cases hnone
      · rw [if_neg fun h => hlong h.1]
  | cons byte rest ih =>
      rw [FrameDecoder.scan] at hnone
      rw [FrameDecoder.outcomes]
      by_cases hbyte : byte = terminator
      · rw [if_pos hbyte] at hnone ⊢
        cases discarding with
        | true => exact ih hnone
        | false =>
            cases hread : readBody body.reverse with
            | some result => simp [hread] at hnone
            | none => exact ih (by simpa [hread] using hnone)
      · rw [if_neg hbyte] at hnone ⊢
        exact ih hnone

namespace Decoding

theorem Exhausted.outlook_nil {g : Decoding} (hnone : g.Exhausted) :
    g.decoder.outlook [] = [] := by
  rw [FrameDecoder.outlook, List.append_nil]
  exact outcomes_eq_nil_of_scan hnone

theorem exists_exhausted (g : Decoding) :
    ∃ n, (g.calls (List.replicate n .next)).Exhausted := by
  induction hlength : g.decoder.buffer.length using Nat.strongRecOn generalizing g with
  | ind length ih =>
      cases hnext : g.decoder.next.1 with
      | none => exact ⟨0, hnext⟩
      | some result =>
          have hshorter := FrameDecoder.next_length_lt hnext
          obtain ⟨n, hn⟩ := ih _ (hlength ▸ hshorter) (g.call .next) rfl
          exact ⟨n + 1, hn⟩

/-- Once a decoder has nothing more to give, it has given out what the stream of all that it
received holds, however that was split and whenever it was asked before. It gets there. -/
theorem results_determined (cs : List DecoderCall) :
    ((calls {} cs).Exhausted → ∀ results,
      StreamReads (cs.flatMap DecoderCall.received) results ↔ results = (calls {} cs).results) ∧
    ∃ n, (calls {} (cs ++ List.replicate n .next)).Exhausted := by
  constructor
  · intro hnone results
    have hgiven : (calls {} cs).results =
        FrameDecoder.outcomes false [] (cs.flatMap DecoderCall.received) := by
      have houtlook := outlook_calls {} cs []
      rwa [hnone.outlook_nil, List.append_nil, List.append_nil] at houtlook
    rw [hgiven]
    exact streamReads_iff
  · obtain ⟨n, hn⟩ := exists_exhausted (calls {} cs)
    exact ⟨n, by rwa [calls_append]⟩

/-- A character that is cut in two by a read, with white space around it. -/
theorem streamReads_split_character :
    StreamReads [0x20, 0xC3, 0xA9, 0x0D, 0x0A, 0] [.ok "é"] :=
  ((results_determined [.push [0x20, 0xC3], .next, .push [0xA9, 0x0D, 0x0A, 0], .next]).1
    rfl _).mpr rfl

end Decoding

end HeaterHost.Wire
