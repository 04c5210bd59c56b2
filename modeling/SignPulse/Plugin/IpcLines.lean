import SignPulse.Foundation.JsonLines

/-!
# Log lines of a plugin worker

`encode_ipc_payload` cuts a long message by the number of its characters.  What the host reads is
bounded by bytes, and a character of the message can take up to six of them.
-/

namespace SignPulse.IpcLines

open Foundation
open Foundation.JsonLines

/-- `max_len`. -/
def maxLen : ℕ := 16384

/-- The limit of an `asyncio.StreamReader`. -/
def readerLimit : ℕ := 65536

/-- What is put after a message that was cut. -/
def truncationMark : CodePoints :=
  codePoints " ...[truncated]"

/-- A payload with its message cut, if it is too long. -/
def truncated (payload : Dict CodePoints CodePoints) (maxLen : ℕ) : Dict CodePoints CodePoints :=
  match Dict.getItem payload (codePoints "message") with
  | some message =>
    if message.length > maxLen then
      Dict.setItem payload (codePoints "message") (message.take maxLen ++ truncationMark)
    else payload
  | none => payload

/-- `encode_ipc_payload`, for payloads of texts. -/
def encodeIpcPayload (payload : Dict CodePoints CodePoints) (maxLen : ℕ) : CodePoints :=
  dumps (truncated payload maxLen) ++ [10]

/-- `decode_ipc_payload`. -/
def decodeIpcPayload (line : CodePoints) : Option (Dict CodePoints CodePoints) :=
  loads line

/-- The payload of `log`. -/
def logPayload (level message : CodePoints) : Dict CodePoints CodePoints :=
  [(codePoints "type", codePoints "log"), (codePoints "level", level),
    (codePoints "message", message)]

/-- The message that a log line carries. -/
def keptMessage (message : CodePoints) : CodePoints :=
  if message.length > maxLen then message.take maxLen ++ truncationMark else message

theorem truncated_logPayload (level message : CodePoints) :
    truncated (logPayload level message) maxLen = logPayload level (keptMessage message) := by
  have hmessage : Dict.getItem (logPayload level message) (codePoints "message") = some message :=
    rfl
  rw [truncated, keptMessage, hmessage]
  dsimp only
  split
  · rfl
  · rfl

/-! ## Sizes -/

theorem utf8Size_logLine (level message : CodePoints) :
    utf8Size (dumps (logPayload level message) ++ [10]) =
      44 + textSize level + textSize message := by
  have htype : utf8Size (memberText (codePoints "type", codePoints "log")) = 13 := by decide
  have hmember : ∀ key value : CodePoints,
      utf8Size (memberText (key, value)) = textSize key + textSize value + 6 := by
    intro key value
    have hbetween : utf8Size (58 :: 32 :: quoted value) = textSize value + 4 := by
      rw [utf8Size_cons, utf8Size_cons, utf8Size_quoted]
      change 1 + (1 + _) = _
      omega
    change utf8Size (quoted key ++ 58 :: 32 :: quoted value) = _
    rw [utf8Size_append, utf8Size_quoted, hbetween]
    omega
  have hlevel : textSize (codePoints "level") = 5 := by decide
  have hmessage : textSize (codePoints "message") = 7 := by decide
  have hline : dumps (logPayload level message) ++ [10] =
      [123] ++ memberText (codePoints "type", codePoints "log") ++ [44, 32] ++
        memberText (codePoints "level", level) ++ [44, 32] ++
        memberText (codePoints "message", message) ++ [125, 10] := by
    simp only [logPayload, dumps, restText, List.cons_append, List.nil_append, List.append_assoc]
  have hopen : utf8Size [123] = 1 := rfl
  have hcomma : utf8Size [44, 32] = 2 := rfl
  have hclose : utf8Size [125, 10] = 2 := rfl
  rw [hline]
  simp only [utf8Size_append, htype, hmember, hlevel, hmessage, hopen, hcomma, hclose]
  omega

theorem textSize_append (left right : CodePoints) :
    textSize (left ++ right) = textSize left + textSize right := by
  unfold textSize
  rw [List.map_append, List.sum_append]

theorem textSize_keptMessage (message : CodePoints) : textSize (keptMessage message) =
      textSize (message.take maxLen) + if maxLen < message.length then 15 else 0 := by
  have hmark : textSize truncationMark = 15 := by decide
  unfold keptMessage
  split
  · rw [textSize_append, hmark]
  · next hshort => rw [List.take_of_length_le (Nat.le_of_not_lt hshort), Nat.add_zero]

theorem valid_logLine_iff (level message : CodePoints) :
    (∀ point ∈ encodeIpcPayload (logPayload level message) maxLen, point.isValidChar) ↔
      ∀ point ∈ level ++ message.take maxLen, point.isValidChar := by
  have hascii : ∀ point < 128, Nat.isValidChar point := by
    intro point hlow
    exact .inl (by omega)
  have hmark : ∀ point ∈ truncationMark, Nat.isValidChar point := by decide
  have htype : ∀ point ∈ codePoints "log", Nat.isValidChar point := by decide
  have hkeys : ∀ key ∈ ["type", "level", "message"], ∀ point ∈ codePoints key,
      Nat.isValidChar point := by decide
  have hkept : (∀ point ∈ keptMessage message, point.isValidChar) ↔
      ∀ point ∈ message.take maxLen, point.isValidChar := by
    unfold keptMessage
    split
    · rw [List.forall_mem_append, and_iff_left hmark]
    · next hshort => rw [List.take_of_length_le (Nat.le_of_not_lt hshort)]
  unfold encodeIpcPayload
  rw [truncated_logPayload, List.forall_mem_append, List.forall_mem_append, ← hkept,
    forall_mem_dumps_iff hascii, List.forall_mem_singleton, and_iff_left (hascii 10 (by decide))]
  unfold logPayload
  rw [List.forall_mem_cons, List.forall_mem_cons, List.forall_mem_singleton,
    and_iff_right ⟨hkeys "type" (by decide), htype⟩, and_iff_right (hkeys "level" (by decide)),
    and_iff_right (hkeys "message" (by decide))]

/-- A log line that the host can read: one dictionary on one line, not too long. -/
def FitsReader (level message : CodePoints) : Prop :=
  let line := encodeIpcPayload (logPayload level message) maxLen
  decodeIpcPayload line = some (logPayload level (keptMessage message)) ∧ 10 ∉ line.dropLast ∧
    ∃ bytes, encodeUtf8 line = some bytes ∧ bytes.length ≤ readerLimit

/-- A log line can be read exactly if the level and the kept part of the message have no surrogate
and are small enough once they are escaped and encoded. -/
theorem fitsReader_iff (level message : CodePoints) : FitsReader level message ↔
      (∀ point ∈ level ++ message.take maxLen, point.isValidChar) ∧
        44 + textSize level + textSize (message.take maxLen) +
          (if maxLen < message.length then 15 else 0) ≤ readerLimit := by
  have hline : encodeIpcPayload (logPayload level message) maxLen =
      dumps (logPayload level (keptMessage message)) ++ [10] :=
    congrArg (fun payload => dumps payload ++ [10]) (truncated_logPayload level message)
  have hnodup : (Dict.keyList (logPayload level (keptMessage message))).Nodup := by
    change [codePoints "type", codePoints "level", codePoints "message"].Nodup
    decide
  have hdecode : decodeIpcPayload (encodeIpcPayload (logPayload level message) maxLen) =
      some (logPayload level (keptMessage message)) := by
    rw [hline]
    exact loads_dumps hnodup
  have honeLine : 10 ∉ (encodeIpcPayload (logPayload level message) maxLen).dropLast := by
    rw [hline, List.dropLast_concat]
    exact newline_not_mem_dumps _
  have hsize : utf8Size (encodeIpcPayload (logPayload level message) maxLen) =
      44 + textSize level + textSize (message.take maxLen) +
        if maxLen < message.length then 15 else 0 := by
    rw [hline, utf8Size_logLine, textSize_keptMessage, ← Nat.add_assoc]
  have hvalid := exists_encodeUtf8_iff (encodeIpcPayload (logPayload level message) maxLen)
  rw [valid_logLine_iff] at hvalid
  simp only [FitsReader]
  rw [and_iff_right hdecode, and_iff_right honeLine, ← hsize, ← hvalid]
  constructor
  · rintro ⟨bytes, hencode, hlimit⟩
    exact ⟨⟨bytes, hencode⟩, length_encodeUtf8 hencode ▸ hlimit⟩
  · rintro ⟨⟨bytes, hencode⟩, hlimit⟩
    exact ⟨bytes, hencode, (length_encodeUtf8 hencode).symm ▸ hlimit⟩

/-- A message of 16384 characters of four bytes each: its line is too long. -/
theorem emoji_message_too_long :
    ¬FitsReader (codePoints "INFO") (List.replicate 16384 0x1F600) := by
  rintro ⟨-, -, bytes, hencode, hlimit⟩
  have hmessage : keptMessage (List.replicate 16384 0x1F600) = List.replicate 16384 0x1F600 :=
    if_neg (by rw [List.length_replicate]; exact Nat.lt_irrefl _)
  have hline : encodeIpcPayload (logPayload (codePoints "INFO") (List.replicate 16384 0x1F600))
      maxLen = dumps (logPayload (codePoints "INFO") (List.replicate 16384 0x1F600)) ++ [10] := by
    rw [encodeIpcPayload, truncated_logPayload, hmessage]
  have hsize : textSize (List.replicate 16384 0x1F600) = 16384 * 4 := by
    rw [textSize, List.map_replicate, List.sum_replicate_nat]
    rfl
  rw [length_encodeUtf8 hencode, hline, utf8Size_logLine, hsize] at hlimit
  have hlimit : 44 + textSize (codePoints "INFO") + 16384 * 4 ≤ 65536 := hlimit
  omega

end SignPulse.IpcLines
