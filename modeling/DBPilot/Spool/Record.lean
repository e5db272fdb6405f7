import DBPilot.Lib.Frames
import DBPilot.Spool.Types

/-!
# Segment records

The on-disk record of one batch: magic, version, header and payload lengths,
the JSON header, the payload, and a CRC-32C of everything before it. Recovery
reads the records of a segment one after another and distinguishes a torn final
record, which is cut off, from corruption, which condemns the whole segment.
-/

namespace DBPilot.Spool

open WallClock Frames

variable {J : Json} {header : RecordHeader} {payload encoded tail : Bytes}

/-- `encoding/json` on record headers and cursor receipts. Encoding may fail (a
time outside the years 0 to 9999); what it produces decodes to the same value,
and a header only encodes when the receipt inside it does. -/
structure Json where
  marshalHeader : RecordHeader → Option Bytes
  unmarshalHeader : Bytes → Option RecordHeader
  marshalCursor : PersistedCursorReceipt → Option Bytes
  unmarshalCursor : Bytes → Option PersistedCursorReceipt
  header_roundTrip : ∀ {header encoded}, marshalHeader header = some encoded → unmarshalHeader encoded = some header
  cursor_roundTrip : ∀ {cursor encoded}, marshalCursor cursor = some encoded → unmarshalCursor encoded = some cursor
  cursor_of_header : ∀ {header encoded cursor}, marshalHeader header = some encoded →
    header.cursor = some cursor → ∃ encodedCursor, marshalCursor cursor = some encodedCursor

def recordVersion : UInt8 := 1

def maxHeaderBytes : Nat := 2 ^ 20

def recordMagic : Bytes := [0x44, 0x42, 0x50, 0x53]

/-- A record up to its checksum. -/
def recordBody (headerBytes payload : Bytes) : Bytes :=
  recordMagic ++ [recordVersion] ++ BigEndian.put 4 headerBytes.length ++
    BigEndian.put 8 payload.length ++ headerBytes ++ payload

def withChecksum (body : Bytes) : Bytes :=
  body ++ BigEndian.put 4 (Checksum.crc32c body).toNat

def encodeRecord (J : Json) (header : RecordHeader) (payload : Bytes) : Except SpoolError Bytes :=
  if payload.length > 2 ^ 32 - 1 then .error .payloadTooLarge else
  match J.marshalHeader header with
  | none => .error .invalidHeader
  | some headerBytes =>
    if headerBytes.length > maxHeaderBytes then .error .invalidHeader
    else .ok (withChecksum (recordBody headerBytes payload))

/-- The entry of a decoded record; `recover` fills in the file afterwards. -/
def entryOf (header : RecordHeader) (cursor : Option PersistedCursorReceipt) (payload : Bytes)
    (total : Nat) : Entry where
  batch := ⟨header.id, header.sourceID, header.createdAt, header.priority, payload, header.checksum⟩
  dataClass := header.dataClass
  sequence := header.sequence
  file := .active
  bytes := total
  cursor := cursor.map clonePersistedCursor

/-- The checks of a decoded header. A legacy cursor is migrated by its check. -/
def checkHeader (header : RecordHeader) : Option (Option PersistedCursorReceipt) :=
  if !validClass header.dataClass || header.id == "" || header.sourceID == "" || header.sequence == 0 then none else
  match header.cursor with
  | none => some none
  | some cursor => (validPersistedCursorReceipt cursor).map some

/-- One turn of the loop of `recoverFile`: `size` is the length of the whole
file, `rest` its contents from the current offset on. -/
def readRecord (J : Json) (size : Nat) (rest : Bytes) : Head Entry :=
  if rest.length < 17 then .torn else
  if rest.take 4 ≠ recordMagic ∨ (rest.drop 4).head? ≠ some recordVersion then .corrupt else
  let headerLength := BigEndian.get ((rest.drop 5).take 4)
  let payloadLength := BigEndian.get ((rest.drop 9).take 8)
  if headerLength > maxHeaderBytes ∨ payloadLength > size then .corrupt else
  let total := 17 + headerLength + payloadLength + 4
  if rest.length < total then .torn else
  let body := rest.take (total - 4)
  if (Checksum.crc32c body).toNat ≠ BigEndian.get ((rest.drop (total - 4)).take 4) then .corrupt else
  match J.unmarshalHeader ((rest.drop 17).take headerLength) with
  | none => .corrupt
  | some header =>
    match checkHeader header with
    | none => .corrupt
    | some cursor =>
      .frame (entryOf header cursor ((body.drop (17 + headerLength))) total) total

/-- The recovered entries and the length the file is left with; nothing on
`errCorruptRecord`. -/
def recoverFile (J : Json) (contents : Bytes) : Option (List Entry × Nat) :=
  scan (readRecord J contents.length) contents.length contents

/-! ## Layout -/

/-- The fixed part of a record that announces the two lengths. -/
def prologue (headerLength payloadLength : Nat) : Bytes :=
  recordMagic ++ [recordVersion] ++ BigEndian.put 4 headerLength ++ BigEndian.put 8 payloadLength

@[simp] lemma length_prologue (h p : Nat) : (prologue h p).length = 17 := by
  simp [prologue, recordMagic]

lemma recordBody_eq (headerBytes payload : Bytes) :
    recordBody headerBytes payload = prologue headerBytes.length payload.length ++ (headerBytes ++ payload) := by
  simp [recordBody, prologue]

@[simp] lemma length_recordBody (headerBytes payload : Bytes) :
    (recordBody headerBytes payload).length = 17 + headerBytes.length + payload.length := by
  simp [recordBody_eq, Nat.add_assoc]

@[simp] lemma length_withChecksum (body : Bytes) : (withChecksum body).length = body.length + 4 := by
  simp [withChecksum]

lemma encodeRecord_ok (h : encodeRecord J header payload = .ok encoded) :
    ∃ headerBytes, J.marshalHeader header = some headerBytes ∧
      headerBytes.length ≤ maxHeaderBytes ∧ payload.length < 2 ^ 32 ∧
      encoded = withChecksum (recordBody headerBytes payload) := by
  unfold encodeRecord at h
  split at h
  · cases h
  split at h
  · cases h
  · split at h
    · cases h
    · cases h
      exact ⟨_, ‹_›, by omega, by omega, rfl⟩

lemma length_encodeRecord (h : encodeRecord J header payload = .ok encoded) : 21 + payload.length ≤ encoded.length := by
  obtain ⟨headerBytes, -, -, -, rfl⟩ := encodeRecord_ok h
  simp
  omega

section Prologue
variable (h p : Nat) (suffix : Bytes)

lemma prologue_magic : (prologue h p ++ suffix).take 4 = recordMagic := by
  simp [prologue, recordMagic]

lemma prologue_version : ((prologue h p ++ suffix).drop 4).head? = some recordVersion := by
  simp [prologue, recordMagic]

lemma prologue_headerLength (fits : h < 256 ^ 4) : BigEndian.get (((prologue h p ++ suffix).drop 5).take 4) = h := by
  have hdrop : (prologue h p ++ suffix).drop 5 = BigEndian.put 4 h ++ (BigEndian.put 8 p ++ suffix) := by
    simp [prologue, recordMagic]
  rw [hdrop, List.take_left' (BigEndian.length_put 4 h), BigEndian.get_put_of_lt fits]

lemma prologue_payloadLength (fits : p < 256 ^ 8) : BigEndian.get (((prologue h p ++ suffix).drop 9).take 8) = p := by
  have hsplit : prologue h p ++ suffix =
      (recordMagic ++ [recordVersion] ++ BigEndian.put 4 h) ++ (BigEndian.put 8 p ++ suffix) := by
    simp [prologue]
  have hlen : (recordMagic ++ [recordVersion] ++ BigEndian.put 4 h).length = 9 := by
    simp [recordMagic]
  rw [hsplit, List.drop_left' hlen, List.take_left' (BigEndian.length_put 8 p), BigEndian.get_put_of_lt fits]

end Prologue

variable {size : Nat}

/-- Any read that reaches past the length fields is decided by the announced
lengths until the checksum. -/
lemma readRecord_prologue (J : Json) (size : Nat) {h p : Nat} (hfits : h ≤ maxHeaderBytes)
    (pfits : p < 2 ^ 32) (suffix : Bytes) :
    (p > size → readRecord J size (prologue h p ++ suffix) = .corrupt) ∧
    (p ≤ size → suffix.length < h + p + 4 → readRecord J size (prologue h p ++ suffix) = .torn) := by
  have hlt : h < 256 ^ 4 := by unfold maxHeaderBytes at hfits; omega
  have plt : p < 256 ^ 8 := by omega
  have hlen : ¬ (prologue h p ++ suffix).length < 17 := by simp
  constructor
  · intro hbig
    simp [readRecord, prologue_magic, prologue_headerLength h p suffix hlt,
      prologue_payloadLength h p suffix plt, hbig]
  intro hsize hshort
  have hdecl : ¬ (h > maxHeaderBytes ∨ p > size) := by omega
  have htotal : (prologue h p ++ suffix).length < 17 + h + p + 4 := by
    simp only [List.length_append, length_prologue]
    omega
  simp only [readRecord, hlen, if_false, prologue_magic, prologue_version,
    prologue_headerLength h p suffix hlt, prologue_payloadLength h p suffix plt, hdecl,
    htotal, if_true, ne_eq, not_true_eq_false, or_self]

/-! ## Reading complete records -/

/-- A complete record reaches the header checks, which decide alone. -/
lemma readRecord_complete (encodes : encodeRecord J header payload = .ok encoded)
    (fits : payload.length ≤ size) (rest : Bytes) :
    readRecord J size (encoded ++ rest) =
      match checkHeader header with
      | none => .corrupt
      | some cursor => .frame (entryOf header cursor payload encoded.length) encoded.length := by
  obtain ⟨headerBytes, hmarshal, hbytes, hpayload, hencoded⟩ := encodeRecord_ok encodes
  have hlt : headerBytes.length < 256 ^ 4 := by unfold maxHeaderBytes at hbytes; omega
  have plt : payload.length < 256 ^ 8 := by omega
  let crc := BigEndian.put 4 (Checksum.crc32c (recordBody headerBytes payload)).toNat
  have hsplit : encoded ++ rest = prologue headerBytes.length payload.length ++
      (headerBytes ++ (payload ++ (crc ++ rest))) := by
    rw [hencoded, withChecksum, recordBody_eq]
    simp [crc, recordBody_eq]
  have hbody : encoded ++ rest = recordBody headerBytes payload ++ (crc ++ rest) := by
    rw [hencoded, withChecksum, List.append_assoc]
  have htotal : encoded.length = 17 + headerBytes.length + payload.length + 4 := by
    rw [hencoded, length_withChecksum, length_recordBody]
  have hlong : ¬ (encoded ++ rest).length < 17 := by rw [List.length_append]; omega
  have hshort : ¬ (encoded ++ rest).length < 17 + headerBytes.length + payload.length + 4 := by
    rw [List.length_append]; omega
  have hdecl : ¬ (headerBytes.length > maxHeaderBytes ∨ payload.length > size) := by omega
  have hbodyLen : 17 + headerBytes.length + payload.length + 4 - 4 = (recordBody headerBytes payload).length := by
    rw [length_recordBody]; omega
  have htake : (encoded ++ rest).take (17 + headerBytes.length + payload.length + 4 - 4) =
      recordBody headerBytes payload := by
    rw [hbodyLen, hbody, List.take_left' rfl]
  have hcrc : BigEndian.get (((encoded ++ rest).drop
      (17 + headerBytes.length + payload.length + 4 - 4)).take 4) =
      (Checksum.crc32c (recordBody headerBytes payload)).toNat := by
    rw [hbodyLen, hbody, List.drop_left' rfl, List.take_left' (BigEndian.length_put _ _)]
    exact BigEndian.get_put_of_lt (UInt32.toNat_lt _)
  have hheader : J.unmarshalHeader (((encoded ++ rest).drop 17).take headerBytes.length) =
      some header := by
    rw [hsplit, List.drop_left' (length_prologue _ _), List.take_left' rfl]
    exact J.header_roundTrip hmarshal
  have hpayloadBytes : (recordBody headerBytes payload).drop (17 + headerBytes.length) = payload := by
    rw [recordBody_eq, ← List.drop_drop, List.drop_left' (length_prologue _ _), List.drop_left' rfl]
  have hmagic : (encoded ++ rest).take 4 = recordMagic := hsplit ▸ prologue_magic _ _ _
  have hversion : ((encoded ++ rest).drop 4).head? = some recordVersion :=
    hsplit ▸ prologue_version _ _ _
  have hhl : BigEndian.get (((encoded ++ rest).drop 5).take 4) = headerBytes.length :=
    hsplit ▸ prologue_headerLength _ _ _ hlt
  have hpl : BigEndian.get (((encoded ++ rest).drop 9).take 8) = payload.length :=
    hsplit ▸ prologue_payloadLength _ _ _ plt
  simp only [readRecord, hlong, if_false, hmagic, hversion, hhl, hpl, hdecl, hshort, htake, hcrc,
    hheader, hpayloadBytes, htotal, ne_eq, not_true_eq_false, or_self]

/-- The header of a record that recovery gives back as it was written. -/
structure RecordHeader.Recoverable (header : RecordHeader) : Prop where
  dataClass : validClass header.dataClass = true
  id : header.id ≠ ""
  sourceID : header.sourceID ≠ ""
  sequence : header.sequence ≠ 0
  cursor : ∀ cursor, header.cursor = some cursor →
    cursor.version = 1 ∧ validCursorReceipt (publicCursorReceipt cursor) = true

lemma checkHeader_of_recoverable (h : header.Recoverable) : checkHeader header = some header.cursor := by
  have hfields : (!validClass header.dataClass || header.id == "" || header.sourceID == "" ||
      header.sequence == 0) = false := by
    simp [h.dataClass, h.id, h.sourceID, h.sequence]
  simp only [checkHeader, hfields]
  cases hc : header.cursor with
  | none => rfl
  | some cursor =>
    obtain ⟨hversion, hvalid⟩ := h.cursor cursor hc
    simp [validPersistedCursorReceipt, hversion, hvalid]

/-- An accepted cursor is of version 1 after the check, so a legacy cursor is
never given back unchanged. -/
lemma recoverable_of_checkHeader {cursor : Option PersistedCursorReceipt}
    (accepted : checkHeader header = some cursor)
    (unchanged : cursor.map clonePersistedCursor = header.cursor.map clonePersistedCursor) :
    header.Recoverable := by
  unfold checkHeader at accepted
  split at accepted
  · cases accepted
  rename_i hfields
  simp only [Bool.not_eq_true, Bool.or_eq_false_iff, Bool.not_eq_eq_eq_not, Bool.not_false,
    beq_eq_false_iff_ne, ne_eq] at hfields
  obtain ⟨⟨⟨hclass, hid⟩, hsource⟩, hseq⟩ := hfields
  refine ⟨hclass, hid, hsource, hseq, ?_⟩
  intro value hvalue
  simp only [hvalue, Option.map_eq_some_iff] at accepted
  obtain ⟨checked, hchecked, rfl⟩ := accepted
  simp only [hvalue, Option.map_some, Option.some.injEq] at unchanged
  have hversion : (clonePersistedCursor checked).version = (clonePersistedCursor value).version := by rw [unchanged]
  change checked.version = value.version at hversion
  unfold validPersistedCursorReceipt at hchecked
  split at hchecked
  · rename_i migrated hmigrated
    split at hchecked
    · rename_i hok
      cases hchecked
      have hone : value.version = 1 := hversion.symm.trans hok.1
      rw [if_neg (by omega)] at hmigrated
      cases hmigrated
      exact hok
    · cases hchecked
  · cases hchecked

/-! ## Sample records -/

def ascii (s : String) : Bytes := s.toList.map fun c => c.toNat.toUInt8

section Table
variable {κ : Type} [DecidableEq κ]

def textOf (table : List (κ × Bytes)) (value : κ) : Option Bytes :=
  (table.find? (·.1 = value)).map Prod.snd

def valueOf (table : List (κ × Bytes)) (text : Bytes) : Option κ :=
  (table.find? (·.2 = text)).map Prod.fst

/-- Texts of different lengths identify their values. -/
lemma valueOf_textOf {table : List (κ × Bytes)}
    (distinct : (table.map fun row => row.2.length).Nodup) {value : κ} {text : Bytes}
    (h : textOf table value = some text) : valueOf table text = some value := by
  obtain ⟨row, hrow, rfl⟩ := Option.map_eq_some_iff.mp h
  have hmem := List.mem_of_find?_eq_some hrow
  have hvalue : row.1 = value := by simpa using List.find?_some hrow
  cases hfind : table.find? (·.2 = row.2) with
  | none => simpa using List.find?_eq_none.mp hfind row hmem
  | some row' =>
    have htext : row'.2 = row.2 := by simpa using List.find?_some hfind
    have hsame : row' = row := List.inj_on_of_nodup_map distinct
      (List.mem_of_find?_eq_some hfind) hmem (congrArg List.length htext)
    rw [valueOf, hfind, hsame, Option.map_some, hvalue]

end Table

/-- A codec that knows finitely many texts, and no two of the same length. -/
def tabulated (headers : List (RecordHeader × Bytes))
    (cursors : List (PersistedCursorReceipt × Bytes))
    (headerTexts : (headers.map fun row => row.2.length).Nodup)
    (cursorTexts : (cursors.map fun row => row.2.length).Nodup)
    (closed : ∀ row ∈ headers, ∀ cursor, row.1.cursor = some cursor → (textOf cursors cursor).isSome) : Json where
  marshalHeader := textOf headers
  unmarshalHeader := valueOf headers
  marshalCursor := textOf cursors
  unmarshalCursor := valueOf cursors
  header_roundTrip := valueOf_textOf headerTexts
  cursor_roundTrip := valueOf_textOf cursorTexts
  cursor_of_header := by
    intro header encoded cursor hheader hcursor
    obtain ⟨row, hrow, -⟩ := Option.map_eq_some_iff.mp hheader
    have hvalue : row.1 = header := by simpa using List.find?_some hrow
    have hsome := closed row (List.mem_of_find?_eq_some hrow) cursor (hvalue ▸ hcursor)
    exact Option.isSome_iff_exists.mp hsome

/-- One second past the Unix epoch. -/
def sampleTime : Time := ⟨62135596801000000000, 0⟩

def sampleHeader (id : String) (c : DataClass) (sequence : Nat)
    (cursor : Option PersistedCursorReceipt) : RecordHeader where
  id := id
  sourceID := "s"
  createdAt := sampleTime
  priority := 0
  checksum := 0
  dataClass := c
  sequence := sequence
  cursor := cursor

/-- The receipt of a producer for an empty payload. -/
def sampleCursor (sequence : Nat) (ackPending : Bool) : PersistedCursorReceipt where
  version := 1
  key := "a\x001\x00t\x00i"
  assignmentID := "a"
  configurationRevision := 1
  templateID := "t"
  instanceID := "i"
  sequence := sequence
  digest := Checksum.sha256 []
  collectedAt := sampleTime
  ackPending := ackPending

/-- The JSON text of a sample header up to its last field. -/
def headerText (id c sequence : String) : Bytes :=
  ascii "\x7b\"id\":\"" ++ ascii id ++ ascii "\",\"source_id\":\"s\"" ++
    ascii ",\"created_at\":\"1970-01-01T00:00:01Z\",\"priority\":0,\"checksum\":0" ++
    ascii ",\"class\":\"" ++ ascii c ++ ascii "\",\"sequence\":" ++ ascii sequence

/-- The JSON text of a sample cursor. -/
def cursorText (sequence ackPending : String) : Bytes :=
  ascii "\x7b\"version\":1,\"key\":\"a\\u00001\\u0000t\\u0000i\",\"assignment_id\":\"a\"" ++
    ascii ",\"configuration_revision\":1,\"template_id\":\"t\",\"instance_id\":\"i\"" ++
    ascii ",\"sequence\":" ++ ascii sequence ++
    ascii ",\"digest\":\"47DEQpj8HBSa+/TImW+5JCeuQeRkm5NMpJWZG3hSuFU=\"" ++
    ascii ",\"collected_at\":\"1970-01-01T00:00:01Z\",\"ack_pending\":" ++ ascii ackPending ++
    ascii "\x7d"

def sampleHeaders : List (RecordHeader × Bytes) :=
  [(sampleHeader "a" .log 1 none, headerText "a" "LOG" "1" ++ ascii "\x7d"),
    (sampleHeader "bb" .log 2 none, headerText "bb" "LOG" "2" ++ ascii "\x7d"),
    (sampleHeader "a" .auditLog 1 none, headerText "a" "AUDIT_LOG" "1" ++ ascii "\x7d"),
    (sampleHeader "a" .log 1 (some (sampleCursor 1 true)),
      headerText "a" "LOG" "1" ++ ascii ",\"cursor\":" ++ cursorText "1" "true" ++ ascii "\x7d"),
    (sampleHeader "bb" .log 2 (some (sampleCursor 100 true)),
      headerText "bb" "LOG" "2" ++ ascii ",\"cursor\":" ++ cursorText "100" "true" ++ ascii "\x7d")]

def sampleCursors : List (PersistedCursorReceipt × Bytes) :=
  [(sampleCursor 1 true, cursorText "1" "true"), (sampleCursor 1 false, cursorText "1" "false"),
    (sampleCursor 100 true, cursorText "100" "true")]

/-- `encoding/json` on the sample values. -/
def sampleJson : Json := tabulated sampleHeaders sampleCursors
  (by decide +kernel) (by decide +kernel)
  (by
    intro row hrow cursor hcursor
    simp only [sampleHeaders, List.mem_cons, List.not_mem_nil, or_false] at hrow
    rcases hrow with rfl | rfl | rfl | rfl | rfl <;> simp only [sampleHeader] at hcursor <;>
      cases hcursor <;> simp [textOf, sampleCursors, sampleCursor])

/-- The encoding of a sample record. -/
def sampleChunk (header : RecordHeader) (payload : Bytes) : Bytes :=
  withChecksum (recordBody ((textOf sampleHeaders header).getD []) payload)

/-! ## Torn tails -/

/-- The entry the store holds for a record it has written. -/
def recordEntry (record : RecordHeader × Bytes) (encoded : Bytes) : Entry :=
  entryOf record.1 record.1.cursor record.2 encoded.length

/-- `chunks` are the encodings of `records`, one by one. -/
def EncodesAll (J : Json) (records : List (RecordHeader × Bytes)) (chunks : List Bytes) : Prop :=
  List.Forall₂ (fun record chunk => encodeRecord J record.1 record.2 = .ok chunk) records chunks

/-- What an interrupted append of one further record leaves behind. -/
def TornRecord (J : Json) (header : RecordHeader) (payload tail : Bytes) : Prop :=
  ∃ encoded, encodeRecord J header payload = .ok encoded ∧ tail <+: encoded ∧ tail ≠ encoded

lemma tornRecord_take (encodes : encodeRecord J header payload = .ok encoded) {n : Nat}
    (short : n < encoded.length) :
    TornRecord J header payload (encoded.take n) := by
  refine ⟨encoded, encodes, List.take_prefix _ _, fun heq => ?_⟩
  have hlen := congrArg List.length heq
  rw [List.length_take] at hlen
  omega

lemma readRecord_advances (J : Json) (size : Nat) (rest : Bytes) (value : Entry) (total : Nat)
    (h : readRecord J size rest = .frame value total) : 0 < total := by
  unfold readRecord at h
  repeat' (first | split at h | (simp only at h; split at h))
  all_goals (first | (cases h; omega) | cases h)

variable {records : List (RecordHeader × Bytes)} {chunks : List Bytes}

lemma reads_all (encodes : EncodesAll J records chunks) (ok : ∀ record ∈ records, record.1.Recoverable)
    (fits : chunks.flatten.length ≤ size) :
    List.Forall₂ (Reads (readRecord J size)) (List.zipWith recordEntry records chunks) chunks := by
  induction encodes with
  | nil => exact .nil
  | @cons record chunk records chunks first _ ih =>
    rw [List.flatten_cons, List.length_append] at fits
    have hlen := length_encodeRecord first
    refine .cons ⟨?_, fun rest => ?_⟩ (ih (fun r hr => ok r (List.mem_cons_of_mem record hr)) (by omega))
    · intro hnil
      simp [hnil] at hlen
    · rw [readRecord_complete first (by omega), checkHeader_of_recoverable (ok record List.mem_cons_self)]
      rfl

/-- How the loop reads a torn record: short of the length fields it is cut off;
past them it is cut off only when the announced payload is no longer than the
file itself. -/
lemma readRecord_torn (torn : TornRecord J header payload tail)
    (size : Nat) :
    readRecord J size tail =
      if 17 ≤ tail.length ∧ size < payload.length then .corrupt else .torn := by
  obtain ⟨encoded, encodes, ⟨missing, hmissing⟩, proper⟩ := torn
  by_cases hshort : tail.length < 17
  · rw [if_neg (by omega)]
    simp [readRecord, hshort]
  obtain ⟨headerBytes, -, hbytes, hpayload, hencoded⟩ := encodeRecord_ok encodes
  have hsplit : tail = prologue headerBytes.length payload.length ++ tail.drop 17 := by
    have hfull : tail ++ missing = prologue headerBytes.length payload.length ++
        (headerBytes ++ payload ++ BigEndian.put 4 (Checksum.crc32c (recordBody headerBytes payload)).toNat) := by
      rw [hmissing, hencoded, withChecksum, recordBody_eq]
      simp
    have htake : (tail ++ missing).take 17 = prologue headerBytes.length payload.length := by
      rw [hfull, List.take_left' (length_prologue _ _)]
    rw [List.take_append_of_le_length (by omega)] at htake
    rw [← htake, List.take_append_drop]
  have hlen : tail.length < encoded.length := by
    rw [← hmissing, List.length_append]
    have hne : missing ≠ [] := by
      rintro rfl
      exact proper (by simpa using hmissing)
    have := List.length_pos_iff.mpr hne
    omega
  rw [hencoded, length_withChecksum, length_recordBody] at hlen
  obtain ⟨hcorrupt, htorn⟩ := readRecord_prologue J size hbytes hpayload (tail.drop 17)
  rw [← hsplit] at hcorrupt htorn
  by_cases hbig : size < payload.length
  · rw [if_pos ⟨by omega, hbig⟩]
    exact hcorrupt hbig
  · rw [if_neg (by omega)]
    exact htorn (by omega) (by rw [List.length_drop]; omega)

section

variable (encodes : EncodesAll J records chunks)
include encodes

/-- The scan goes through recoverable records to what follows them. -/
lemma recoverFile_records (ok : ∀ record ∈ records, record.1.Recoverable) (tail : Bytes) :
    recoverFile J (chunks.flatten ++ tail) =
      (scan (readRecord J (chunks.flatten ++ tail).length) tail.length tail).map fun (more, kept) =>
        (List.zipWith recordEntry records chunks ++ more, chunks.flatten.length + kept) := by
  have hfits : chunks.flatten.length ≤ (chunks.flatten ++ tail).length := by simp
  rw [recoverFile, scan_file (readRecord_advances J _) (reads_all encodes ok hfits)]

/-- A segment of recoverable records and a torn tail: either the tail is cut
off and every record is given back, or the whole segment counts as corrupt. -/
theorem recoverFile_torn (ok : ∀ record ∈ records, record.1.Recoverable) (torn : TornRecord J header payload tail) :
    recoverFile J (chunks.flatten ++ tail) =
      if 17 ≤ tail.length ∧ (chunks.flatten ++ tail).length < payload.length then none
      else some (List.zipWith recordEntry records chunks, chunks.flatten.length) := by
  rw [recoverFile_records encodes ok]
  have hread := readRecord_torn torn (chunks.flatten ++ tail).length
  by_cases hnil : tail = []
  · subst hnil
    simp
  obtain ⟨fuel, hfuel⟩ := Nat.exists_eq_add_of_lt (List.length_pos_iff.mpr hnil)
  have hscan := scan_of_ne_nil (readRecord J (chunks.flatten ++ tail).length) hnil (0 + fuel)
  rw [← hfuel] at hscan
  rw [hscan]
  split at hread
  · rename_i hbad
    rw [hread, if_pos hbad]
    rfl
  · rename_i hgood
    rw [hread, if_neg hgood]
    simp

/-- A segment whose scan gives every record back as written holds recoverable
headers only. -/
lemma recoverable_of_scan (fits : chunks.flatten.length ≤ size) {fuel kept : Nat}
    (h : scan (readRecord J size) fuel (chunks.flatten ++ tail) =
      some (List.zipWith recordEntry records chunks, kept)) : ∀ record ∈ records, record.1.Recoverable := by
  induction encodes generalizing fuel kept with
  | nil => simp
  | @cons record chunk records chunks first _ ih =>
    rw [List.flatten_cons, List.length_append] at fits
    have hlen := length_encodeRecord first
    have hne : (chunk :: chunks).flatten ++ tail ≠ [] := by
      intro hnil
      have := congrArg List.length hnil
      simp only [List.flatten_cons, List.length_append, List.length_nil] at this
      omega
    cases fuel with
    | zero =>
      cases hfile : (chunk :: chunks).flatten ++ tail with
      | nil => exact absurd hfile hne
      | cons => rw [hfile] at h; cases h
    | succ =>
      rw [scan_of_ne_nil _ hne, List.flatten_cons, List.append_assoc, readRecord_complete first (by omega)] at h
      cases hcheck : checkHeader record.1 with
      | none => simp [hcheck] at h
      | some cursor =>
        simp only [hcheck, List.zipWith_cons_cons, Option.map_eq_some_iff, Prod.exists,
          Prod.mk.injEq, List.cons.injEq, List.drop_left' rfl] at h
        obtain ⟨values, rest, hscan, ⟨hentry, rfl⟩, -⟩ := h
        have hcursor : (entryOf record.1 cursor record.2 chunk.length).cursor =
            (recordEntry record chunk).cursor := by rw [hentry]
        intro r hr
        rcases List.mem_cons.mp hr with rfl | hr
        · exact recoverable_of_checkHeader hcheck hcursor
        · exact ih (by omega) hscan r hr

end

/-- Recovery of complete records followed by a torn one gives the records back
and cuts the tail off exactly when each record passes the header checks in its
current form and the tail either stops short of its length fields or announces
no more payload than the file is long. -/
theorem recoverFile_torn_tail_iff (J : Json) (records : List (RecordHeader × Bytes))
    (chunks : List Bytes) (encodes : EncodesAll J records chunks)
    (header : RecordHeader) (payload tail : Bytes) (torn : TornRecord J header payload tail) :
    recoverFile J (chunks.flatten ++ tail) = some (List.zipWith recordEntry records chunks, chunks.flatten.length) ↔
      (∀ record ∈ records, record.1.Recoverable) ∧
        ¬ (17 ≤ tail.length ∧ (chunks.flatten ++ tail).length < payload.length) := by
  constructor
  · intro h
    have hok := recoverable_of_scan encodes (by simp) h
    refine ⟨hok, fun hbad => ?_⟩
    rw [recoverFile_torn encodes hok torn, if_pos hbad] at h
    cases h
  · rintro ⟨hok, hgood⟩
    rw [recoverFile_torn encodes hok torn, if_neg hgood]

abbrev headerA : RecordHeader := sampleHeader "a" .log 1 none

abbrev headerB : RecordHeader := sampleHeader "bb" .log 2 none

set_option maxRecDepth 100000 in
lemma encodes_headerA : encodeRecord sampleJson headerA [] = .ok (sampleChunk headerA []) := by rfl

lemma headerA_recoverable : headerA.Recoverable :=
  ⟨rfl, by decide, by decide, by decide, fun cursor hcursor => by cases hcursor⟩

set_option maxRecDepth 100000 in
theorem recoverFile_torn_tail_sample :
    recoverFile sampleJson (sampleChunk headerA [] ++ (sampleChunk headerB []).take 1) =
      some ([recordEntry (headerA, []) (sampleChunk headerA [])], (sampleChunk headerA []).length) := by
  have hencodes : encodeRecord sampleJson headerB [] = .ok (sampleChunk headerB []) := by rfl
  have htorn := tornRecord_take hencodes (by decide +kernel : 1 < (sampleChunk headerB []).length)
  have hiff := recoverFile_torn_tail_iff sampleJson [(headerA, [])] [sampleChunk headerA []]
    (.cons encodes_headerA .nil) headerB [] _ htorn
  simpa using hiff.mpr ⟨by simpa using headerA_recoverable, by simp⟩

set_option maxRecDepth 100000 in
/-- One complete record and the first 17 bytes of a record of 1000 payload bytes:
the segment, which is shorter than that, counts as corrupt. -/
theorem recoverFile_condemns_torn_tail :
    encodeRecord sampleJson headerA [] = .ok (sampleChunk headerA []) ∧
      TornRecord sampleJson headerB (List.replicate 1000 0) ((sampleChunk headerB (List.replicate 1000 0)).take 17) ∧
      recoverFile sampleJson (sampleChunk headerA [] ++
        (sampleChunk headerB (List.replicate 1000 0)).take 17) = none := by
  have hencodes : encodeRecord sampleJson headerB (List.replicate 1000 0) =
      .ok (sampleChunk headerB (List.replicate 1000 0)) := by rfl
  have htorn := tornRecord_take hencodes
    (by decide +kernel : 17 < (sampleChunk headerB (List.replicate 1000 0)).length)
  exact ⟨encodes_headerA, htorn, Option.isNone_iff_eq_none.mp (by decide +kernel)⟩

end DBPilot.Spool
