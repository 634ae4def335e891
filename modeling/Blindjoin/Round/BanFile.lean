import Blindjoin.Lib.JsonText
import Blindjoin.Lib.Lines
import Blindjoin.Round.Blame

/-!
# The ban file

Bans outlive the process in a file of JSON records, one on each line. A ban is
appended when it is recorded (`Blindjoin.appendBanEntry`); at startup the
unexpired records are loaded (`Blindjoin.loadUnexpiredEntries`) into an empty
ban list, and the file is rewritten with those records only
(`Blindjoin.compactBanFile`).

A file is the bytes it holds, or `none` when it does not exist. The times of a
record are `u64`. The reader of a line is a library function, of which nothing is
known but where a result says so: that it reads printed records back
(`Blindjoin.BanRecordReader.ReadsBack`).

Loading stops at the first line that is not UTF-8: the line iterator then yields
an error, which the loop hands to its caller, and at startup the caller goes on
with an empty list. So the loader skips bad lines exactly when every line of the
file is text (`Blindjoin.loadUnexpiredEntries_eq_ok_iff`).
-/

namespace Blindjoin

open Collections TextCodec JsonText

/-! ### Records -/

/-- One line of the ban file. -/
structure BanRecord where
  utxoHash : String
  bannedAt : UInt64
  expiresAt : UInt64
deriving DecidableEq

/-- The field a number is printed after. -/
def bannedAtKey : List Char := ",\"banned_at\":".toList

/-- The field the other number is printed after. -/
def expiresAtKey : List Char := ",\"expires_at\":".toList

/-- The field the hash is printed after. -/
def utxoHashKey : List Char := "\x7b\"utxo_hash\":".toList

/-- The text of a record, as `serde_json::to_string` prints it. -/
def BanRecord.toJson (r : BanRecord) : String :=
  String.ofList (utxoHashKey ++ (quoted r.utxoHash.toList ++ (bannedAtKey ++
    (Nat.toDigits 10 r.bannedAt.toNat ++ (expiresAtKey ++
      (Nat.toDigits 10 r.expiresAt.toNat ++ [Char.ofNat 125]))))))

/-- `serde_json::from_str::<BanRecord>`. -/
structure BanRecordReader where
  fromStr : String → Option BanRecord

/-- A printed record is read back. -/
def BanRecordReader.ReadsBack (R : BanRecordReader) : Prop :=
  ∀ r : BanRecord, R.fromStr r.toJson = some r

/-- Read a record exactly as it is printed. -/
def readCompact (s : String) : Option BanRecord :=
  match JsonText.expect utxoHashKey s.toList with
  | none => none
  | some cs => match readQuoted cs with
    | none => none
    | some (hash, cs) => match JsonText.expect bannedAtKey cs with
      | none => none
      | some cs => match readU64 cs with
        | none => none
        | some (bannedAt, cs) => match JsonText.expect expiresAtKey cs with
          | none => none
          | some cs => match readU64 cs with
            | none => none
            | some (expiresAt, cs) =>
              if cs = [Char.ofNat 125] then some ⟨String.ofList hash, bannedAt, expiresAt⟩
              else none

theorem readCompact_toJson (r : BanRecord) : readCompact r.toJson = some r := by
  have hcomma : ∀ (n : UInt64) (rest : List Char),
      readU64 (Nat.toDigits 10 n.toNat ++ (expiresAtKey ++ rest)) =
        some (n, expiresAtKey ++ rest) := fun n rest => readU64_toDigits n (by decide) _
  have hbrace : ∀ n : UInt64, readU64 (Nat.toDigits 10 n.toNat ++ [Char.ofNat 125]) =
      some (n, [Char.ofNat 125]) := fun n => readU64_toDigits n (by decide) []
  rw [readCompact, BanRecord.toJson, String.toList_ofList]
  simp only [JsonText.expect_append, readQuoted_quoted, hcomma, hbrace, if_pos,
    String.ofList_toList]

/-- The reader that knows the compact form only. -/
def compactReader : BanRecordReader := ⟨readCompact⟩

@[simp] theorem compactReader_fromStr (s : String) : compactReader.fromStr s = readCompact s := rfl

theorem readsBack_compactReader : compactReader.ReadsBack := by
  intro r
  rw [compactReader_fromStr, readCompact_toJson]

/-! ### Lines -/

/-- `char::is_whitespace`: the characters with Unicode's `White_Space`. -/
def isWhitespace (c : Char) : Bool :=
  let n := c.toNat
  (9 ≤ n && n ≤ 13) || n = 32 || n = 133 || n = 160 || n = 5760 || (8192 ≤ n && n ≤ 8202) ||
    n = 8232 || n = 8233 || n = 8239 || n = 8287 || n = 12288

/-- `str::trim`. -/
def trim (s : String) : String :=
  String.ofList ((s.toList.dropWhile isWhitespace).reverse.dropWhile isWhitespace).reverse

/-- The text of a line, if it is UTF-8. -/
def decodeLine (line : Bytes) : Option String := String.fromUTF8? ⟨line.toArray⟩

/-- A carriage return before the newline belongs to the line's end. -/
def dropCarriageReturn (s : String) : String :=
  if s.toList.getLast? = some '\r' then String.ofList s.toList.dropLast else s

/-- `BufRead::lines`: each line's text without its end, `none` for a line that is
not UTF-8. -/
def fileLines (content : Bytes) : List (Option String) :=
  (Lines.cut 10 content).1.map (fun line => (decodeLine line).map dropCarriageReturn) ++
    if (Lines.cut 10 content).2 = [] then [] else [decodeLine (Lines.cut 10 content).2]

/-! ### Loading -/

/-- `std::io::Error`, as far as reading a file that exists can raise it. -/
inductive BanFileError
  | invalidData
deriving DecidableEq

section Load

variable (R : BanRecordReader)

/-- What the loop keeps of a line: an unexpired record. -/
def unexpiredRecord (nowSecs : UInt64) (line : String) : Option (String × BanEntry UInt64) :=
  let line := trim line
  if line = "" then none
  else match R.fromStr line with
    | some record =>
      if nowSecs < record.expiresAt then
        some (record.utxoHash, ⟨record.bannedAt, record.expiresAt⟩)
      else none
    | none => none

/-- The loop over the lines; `result` is what it has kept so far. -/
def loadLines (nowSecs : UInt64) (result : List (String × BanEntry UInt64)) :
    List (Option String) → Except BanFileError (List (String × BanEntry UInt64))
  | [] => .ok result
  -- the question mark after the line
  | none :: _ => .error .invalidData
  | some line :: lines =>
    loadLines nowSecs (result ++ (unexpiredRecord R nowSecs line).toList) lines

/-- Load the unexpired entries of the ban file, in file order. -/
def loadUnexpiredEntries (file : Option Bytes) (nowSecs : UInt64) :
    Except BanFileError (List (String × BanEntry UInt64)) :=
  match file with
  | none => .ok []
  | some content => loadLines R nowSecs [] (fileLines content)

/-! ### Writing -/

/-- The line a record is written as, without its newline. -/
def recordLine (r : BanRecord) : Bytes := utf8 r.toJson

/-- The record of an entry. -/
def banRecord (e : String × BanEntry UInt64) : BanRecord := ⟨e.1, e.2.bannedAt, e.2.expiresAt⟩

/-- A file of records. -/
def banFileOf (entries : List (String × BanEntry UInt64)) : Bytes :=
  Lines.join 10 (entries.map fun e => recordLine (banRecord e))

/-- Append a ban to the file, which is created if it does not exist. -/
def appendBanEntry (E : Externals) (file : Option Bytes) (utxoStr : String)
    (entry : BanEntry UInt64) : Option Bytes :=
  some (file.getD [] ++ banFileOf [(hashUtxoStr E utxoStr, entry)])

/-- Rewrite the file with the unexpired entries only. A file that does not load is
left as it is; the number returned is that of the entries kept. -/
def compactBanFile (file : Option Bytes) (nowSecs : UInt64) :
    Except BanFileError ℕ × Option Bytes :=
  match file with
  | none => (.ok 0, none)
  | some content => match loadUnexpiredEntries R (some content) nowSecs with
    | .ok entries => (.ok entries.length, some (banFileOf entries))
    | .error e => (.error e, some content)

end Load

/-- Insert an entry of the ban file, whose key is a hash already. -/
def BanList.loadEntry (l : BanList) (utxoHash : String) (entry : BanEntry UInt64) : BanList :=
  ⟨l.entries.insert utxoHash entry.toNat⟩

/-- What startup makes of the ban file: the list it fills, which stays empty when
loading fails, and the compacted file. -/
def startBanList (R : BanRecordReader) (file : Option Bytes) (nowSecs : UInt64) :
    BanList × Option Bytes :=
  let entries := match loadUnexpiredEntries R file nowSecs with
    | .ok entries => entries
    | .error _ => []
  (entries.foldl (fun l e => l.loadEntry e.1 e.2) BanList.new,
    (compactBanFile R file nowSecs).2)

/-! ### What is loaded -/

variable {R : BanRecordReader} {nowSecs : UInt64} {content : Bytes}

/-- The lines of a file, however they end. -/
def rawLines (content : Bytes) : List Bytes := Lines.pieces 10 content

/-- The entries of those lines that are unexpired records, in file order. A line
that is not UTF-8 is no record. -/
def validEntries (R : BanRecordReader) (content : Bytes) (nowSecs : UInt64) :
    List (String × BanEntry UInt64) :=
  (rawLines content).filterMap fun line => (decodeLine line).bind (unexpiredRecord R nowSecs)

/-- The carriage return of a line's end is white space, so trimming drops it in any
case. -/
theorem trim_dropCarriageReturn (s : String) : trim (dropCarriageReturn s) = trim s := by
  by_cases hcr : s.toList.getLast? = some '\r'
  · obtain ⟨init, hinit⟩ := List.getLast?_eq_some_iff.mp hcr
    rw [dropCarriageReturn, if_pos hcr, trim, trim, String.toList_ofList, hinit,
      List.dropLast_concat, List.dropWhile_append]
    have hws : isWhitespace '\r' = true := by decide
    -- nothing but white space before the carriage return, or a character that stays
    cases hdrop : init.dropWhile isWhitespace with
    | nil => simp [hws]
    | cons c cs =>
      rw [List.isEmpty_cons, if_neg Bool.false_ne_true, List.reverse_append,
        List.reverse_singleton, List.singleton_append, List.dropWhile_cons_of_pos hws]
  · rw [dropCarriageReturn, if_neg hcr]

theorem unexpiredRecord_dropCarriageReturn (s : String) :
    unexpiredRecord R nowSecs (dropCarriageReturn s) = unexpiredRecord R nowSecs s := by
  rw [unexpiredRecord, unexpiredRecord, trim_dropCarriageReturn]

/-- The loop over lines that are all text keeps what each of them gives. -/
theorem loadLines_of_forall (result : List (String × BanEntry UInt64))
    {lines : List (Option String)} (h : ∀ line ∈ lines, line.isSome) :
    loadLines R nowSecs result lines =
      .ok (result ++ lines.filterMap fun line => line.bind (unexpiredRecord R nowSecs)) := by
  induction lines generalizing result with
  | nil => rw [loadLines, List.filterMap_nil, List.append_nil]
  | cons line lines ih =>
    obtain ⟨text, rfl⟩ := Option.isSome_iff_exists.mp (h line List.mem_cons_self)
    have hrest := ih (result ++ (unexpiredRecord R nowSecs text).toList) fun line' hline' =>
      h line' (List.mem_cons_of_mem _ hline')
    rw [loadLines, hrest, List.append_assoc, List.filterMap_cons, Option.bind_some]
    cases unexpiredRecord R nowSecs text with
    | none => rfl
    | some e => rfl

/-- The loop stops at a line that is not text. -/
theorem loadLines_of_none_mem (result : List (String × BanEntry UInt64))
    {lines : List (Option String)} (h : none ∈ lines) :
    loadLines R nowSecs result lines = .error .invalidData := by
  induction lines generalizing result with
  | nil => exact absurd h List.not_mem_nil
  | cons line lines ih =>
    cases line with
    | none => rfl
    | some text =>
      have hrest : none ∈ lines := by
        rcases List.mem_cons.mp h with heq | hmem
        · exact absurd heq (by simp)
        · exact hmem
      rw [loadLines, ih _ hrest]

/-- A line of the iteration fails exactly when its bytes are not UTF-8. -/
theorem none_mem_fileLines_iff :
    none ∈ fileLines content ↔ ∃ line ∈ rawLines content, decodeLine line = none := by
  rw [fileLines, rawLines, Lines.pieces]
  by_cases hrest : (Lines.cut 10 content).2 = []
  · simp [hrest]
  -- a last line without a newline is a line as well
  · simp only [if_neg hrest, List.mem_append, List.mem_map, Option.map_eq_none_iff,
      List.mem_singleton]
    constructor
    · rintro (⟨line, hmem, hnone⟩ | hnone)
      · exact ⟨line, .inl hmem, hnone⟩
      · exact ⟨_, .inr rfl, hnone.symm⟩
    · rintro ⟨line, hmem | rfl, hnone⟩
      · exact .inl ⟨line, hmem, hnone⟩
      · exact .inr hnone.symm

theorem filterMap_fileLines :
    (fileLines content).filterMap (fun line => line.bind (unexpiredRecord R nowSecs)) =
      validEntries R content nowSecs := by
  have hline : ∀ line : Bytes,
      ((decodeLine line).map dropCarriageReturn).bind (unexpiredRecord R nowSecs) =
        (decodeLine line).bind (unexpiredRecord R nowSecs) := by
    intro line
    cases decodeLine line with
    | none => rfl
    | some s =>
      rw [Option.map_some, Option.bind_some, Option.bind_some, unexpiredRecord_dropCarriageReturn]
  rw [fileLines, validEntries, rawLines, Lines.pieces, List.filterMap_append,
    List.filterMap_append, List.filterMap_map]
  have hterminated : (Lines.cut 10 content).1.filterMap ((fun line : Option String =>
      line.bind (unexpiredRecord R nowSecs)) ∘ fun line =>
        (decodeLine line).map dropCarriageReturn) =
      (Lines.cut 10 content).1.filterMap fun line =>
        (decodeLine line).bind (unexpiredRecord R nowSecs) :=
    List.filterMap_congr fun line _ => hline line
  rw [hterminated]
  by_cases hrest : (Lines.cut 10 content).2 = []
  · rw [if_pos hrest, if_pos hrest, List.filterMap_nil, List.filterMap_nil]
  · rw [if_neg hrest, if_neg hrest, List.filterMap_cons, List.filterMap_cons, List.filterMap_nil,
      List.filterMap_nil]

/-- What loading a file returns: the valid entries, unless a line is not UTF-8. -/
theorem loadUnexpiredEntries_some (R : BanRecordReader) (content : Bytes) (nowSecs : UInt64) :
    ((∀ line ∈ rawLines content, (decodeLine line).isSome) ∧
      loadUnexpiredEntries R (some content) nowSecs = .ok (validEntries R content nowSecs)) ∨
    ((∃ line ∈ rawLines content, decodeLine line = none) ∧
      loadUnexpiredEntries R (some content) nowSecs = .error .invalidData) := by
  by_cases hnone : none ∈ fileLines content
  · exact .inr ⟨none_mem_fileLines_iff.mp hnone, loadLines_of_none_mem [] hnone⟩
  · have hsome : ∀ line ∈ fileLines content, line.isSome := by
      intro line hmem
      cases line with
      | none => exact absurd hmem hnone
      | some s => rfl
    refine .inl ⟨fun line hmem => ?_, ?_⟩
    · rw [Option.isSome_iff_ne_none]
      intro heq
      exact hnone (none_mem_fileLines_iff.mpr ⟨line, hmem, heq⟩)
    · rw [loadUnexpiredEntries, loadLines_of_forall [] hsome, List.nil_append, filterMap_fileLines]

/-! ### Reading a written file back -/

/-- Text is read back. -/
theorem decodeLine_utf8 (s : String) : decodeLine (utf8 s) = some s := by
  have hbytes : (⟨(utf8 s).toArray⟩ : ByteArray) = s.toUTF8 := by simp [utf8]
  rw [decodeLine, hbytes, String.fromUTF8?, String.toUTF8_eq_toByteArray, dif_pos s.isValidUTF8]
  rfl

theorem mem_utf8_iff {s : String} {b : UInt8} :
    b ∈ utf8 s ↔ ∃ c ∈ s.toList, b ∈ String.utf8EncodeChar c := by
  have hbytes : s.toUTF8 = (s.toList.flatMap String.utf8EncodeChar).toByteArray := by
    rw [← List.utf8Encode, String.utf8Encode_toList]
    rfl
  rw [utf8, hbytes]
  simp

/-- No byte of a character is a control character but its own. -/
theorem le_toNat_of_mem_utf8EncodeChar {c : Char} {b : UInt8} (hc : 32 ≤ c.toNat)
    (h : b ∈ String.utf8EncodeChar c) : 32 ≤ b.toNat := by
  -- every byte of a longer character has its high bit set
  have hbig : ∀ n k : ℕ, 32 ≤ k → n + k < 256 → 32 ≤ (UInt8.ofNat (n + k)).toNat :=
    fun n k hk hlt => by
      rw [UInt8.toNat_ofNat', Nat.mod_eq_of_lt hlt]
      omega
  have hv : c.val.toNat = c.toNat := rfl
  rw [String.utf8EncodeChar] at h
  simp only [hv] at h
  split_ifs at h with h1 h2 h3
  · obtain rfl := List.mem_singleton.mp h
    have hself := hbig 0 c.toNat hc (by omega)
    rwa [Nat.zero_add] at hself
  · rcases List.mem_pair.mp h with rfl | rfl
    · exact hbig _ _ (by decide) (by omega)
    · exact hbig _ _ (by decide) (by omega)
  · simp only [List.mem_cons, List.not_mem_nil, or_false] at h
    rcases h with rfl | rfl | rfl
    · exact hbig _ _ (by decide) (by omega)
    · exact hbig _ _ (by decide) (by omega)
    · exact hbig _ _ (by decide) (by omega)
  · simp only [List.mem_cons, List.not_mem_nil, or_false] at h
    rcases h with rfl | rfl | rfl | rfl
    · exact hbig _ _ (by decide) (by omega)
    · exact hbig _ _ (by decide) (by omega)
    · exact hbig _ _ (by decide) (by omega)
    · exact hbig _ _ (by decide) (by omega)

/-- Text without control characters is one line. -/
theorem newline_notMem_utf8 {s : String} (h : ∀ c ∈ s.toList, 32 ≤ c.toNat) : 10 ∉ utf8 s := by
  intro hmem
  obtain ⟨c, hc, hb⟩ := mem_utf8_iff.mp hmem
  have hle := le_toNat_of_mem_utf8EncodeChar (h c hc) hb
  exact absurd hle (by decide)

/-- A printed record has no control character. -/
theorem BanRecord.le_toNat_of_mem_toJson (r : BanRecord) :
    ∀ c ∈ r.toJson.toList, 32 ≤ c.toNat := by
  have hdigits : ∀ n : ℕ, ∀ c ∈ Nat.toDigits 10 n, 32 ≤ c.toNat := by
    intro n c hc
    have hdigit : c.isDigit = true := Nat.isDigit_of_mem_toDigits (by decide) (by decide) hc
    simp only [Char.isDigit, Bool.and_eq_true, decide_eq_true_eq] at hdigit
    have hle : 48 ≤ c.toNat := hdigit.1
    omega
  have hhash : ∀ c ∈ quoted r.utxoHash.toList, 32 ≤ c.toNat := by
    intro c hc
    simp only [quoted, List.mem_cons, List.mem_append, List.mem_flatMap, List.not_mem_nil,
      or_false] at hc
    rcases hc with rfl | ⟨d, -, hmem⟩ | rfl
    · decide
    · exact le_toNat_of_mem_escape hmem
    · decide
  have hkeys : ∀ cs : List Char, (cs.all fun c => Nat.ble 32 c.toNat) = true →
      ∀ c ∈ cs, 32 ≤ c.toNat := fun cs hcs c hc =>
    Nat.le_of_ble_eq_true (List.all_eq_true.mp hcs c hc)
  have hkey := hkeys utxoHashKey (by decide)
  have hkey' := hkeys bannedAtKey (by decide)
  have hkey'' := hkeys expiresAtKey (by decide)
  intro c hc
  rw [BanRecord.toJson, String.toList_ofList] at hc
  simp only [List.mem_append, List.mem_singleton] at hc
  rcases hc with hc | hc | hc | hc | hc | hc | rfl
  · exact hkey c hc
  · exact hhash c hc
  · exact hkey' c hc
  · exact hdigits _ c hc
  · exact hkey'' c hc
  · exact hdigits _ c hc
  · decide

/-- A printed record starts and ends with a brace. -/
theorem BanRecord.exists_toList_toJson (r : BanRecord) :
    ∃ mid, r.toJson.toList = Char.ofNat 123 :: (mid ++ [Char.ofNat 125]) := by
  have hkey : utxoHashKey = Char.ofNat 123 :: utxoHashKey.tail := by decide
  refine ⟨utxoHashKey.tail ++ (quoted r.utxoHash.toList ++ (bannedAtKey ++
      (Nat.toDigits 10 r.bannedAt.toNat ++ (expiresAtKey ++
        Nat.toDigits 10 r.expiresAt.toNat)))), ?_⟩
  rw [BanRecord.toJson, String.toList_ofList, hkey, List.tail_cons]
  simp only [List.cons_append, List.append_assoc]

/-- Nothing is trimmed from a text in braces. -/
theorem trim_of_braces {s : String} {mid : List Char}
    (h : s.toList = Char.ofNat 123 :: (mid ++ [Char.ofNat 125])) : trim s = s := by
  have hdrop : ∀ cs, (Char.ofNat 123 :: cs).dropWhile isWhitespace = Char.ofNat 123 :: cs :=
    fun cs => List.dropWhile_cons_of_neg (by decide)
  have hdrop' : ∀ cs, (Char.ofNat 125 :: cs).dropWhile isWhitespace = Char.ofNat 125 :: cs :=
    fun cs => List.dropWhile_cons_of_neg (by decide)
  have hreverse : (Char.ofNat 123 :: (mid ++ [Char.ofNat 125])).reverse =
      Char.ofNat 125 :: (mid.reverse ++ [Char.ofNat 123]) := by
    rw [List.reverse_cons, List.reverse_append, List.reverse_singleton]
    rfl
  rw [trim, h, hdrop, hreverse, hdrop', ← hreverse, List.reverse_reverse, ← h,
    String.ofList_toList]

/-- Nothing is trimmed from a printed record. -/
theorem BanRecord.trim_toJson (r : BanRecord) : trim r.toJson = r.toJson := by
  obtain ⟨mid, hmid⟩ := r.exists_toList_toJson
  exact trim_of_braces hmid

/-- A printed record is kept while it is not expired. -/
theorem unexpiredRecord_toJson (hR : R.ReadsBack) (e : String × BanEntry UInt64) :
    unexpiredRecord R nowSecs (banRecord e).toJson =
      if nowSecs < e.2.expiresAt then some e else none := by
  have hne : (banRecord e).toJson ≠ "" := by
    intro heq
    obtain ⟨mid, hmid⟩ := (banRecord e).exists_toList_toJson
    rw [heq, String.toList_empty] at hmid
    exact List.cons_ne_nil _ _ hmid.symm
  rw [unexpiredRecord, BanRecord.trim_toJson, if_neg hne, hR]
  simp only [banRecord]
  rfl

theorem rawLines_banFileOf (entries : List (String × BanEntry UInt64)) :
    rawLines (banFileOf entries) = entries.map fun e => recordLine (banRecord e) := by
  have hlines : ∀ l ∈ entries.map (fun e => recordLine (banRecord e)), 10 ∉ l := by
    intro l hl
    obtain ⟨e, -, rfl⟩ := List.mem_map.mp hl
    exact newline_notMem_utf8 (BanRecord.le_toNat_of_mem_toJson _)
  rw [rawLines, Lines.pieces, banFileOf, Lines.cut_join hlines, if_pos rfl, List.append_nil]

/-- **A file of records loads**: its unexpired entries, in file order. -/
theorem loadUnexpiredEntries_banFileOf (hR : R.ReadsBack)
    (entries : List (String × BanEntry UInt64)) :
    loadUnexpiredEntries R (some (banFileOf entries)) nowSecs =
      .ok (entries.filter fun e => nowSecs < e.2.expiresAt) := by
  have hvalid : validEntries R (banFileOf entries) nowSecs =
      entries.filter fun e => nowSecs < e.2.expiresAt := by
    rw [validEntries, rawLines_banFileOf, List.filterMap_map]
    induction entries with
    | nil => rfl
    | cons e entries ih =>
      rw [List.filterMap_cons, List.filter_cons, ih]
      simp only [Function.comp, recordLine, decodeLine_utf8, Option.bind_some,
        unexpiredRecord_toJson hR]
      by_cases hlive : nowSecs < e.2.expiresAt
      · simp [hlive]
      · simp [hlive]
  rcases loadUnexpiredEntries_some R (banFileOf entries) nowSecs with
    ⟨-, hok⟩ | ⟨⟨line, hmem, hnone⟩, -⟩
  · rw [hok, hvalid]
  · rw [rawLines_banFileOf] at hmem
    obtain ⟨e, -, rfl⟩ := List.mem_map.mp hmem
    rw [recordLine, decodeLine_utf8] at hnone
    exact absurd hnone (by simp)

/-! ### One bad line -/

/-- The ban list that holds some entries. -/
def banListOf (entries : List (String × BanEntry UInt64)) : BanList :=
  entries.foldl (fun l e => l.loadEntry e.1 e.2) BanList.new

/-- **Bad lines are skipped exactly when every line is UTF-8**: then, and only
then, loading returns the valid entries in file order, and startup fills its list
with them. -/
theorem load_skips_bad_lines_iff (R : BanRecordReader) (content : Bytes) (nowSecs : UInt64) :
    (loadUnexpiredEntries R (some content) nowSecs = .ok (validEntries R content nowSecs) ∧
      (startBanList R (some content) nowSecs).1 = banListOf (validEntries R content nowSecs)) ↔
    ∀ line ∈ rawLines content, (decodeLine line).isSome := by
  rcases loadUnexpiredEntries_some R content nowSecs with ⟨hall, hok⟩ | ⟨⟨line, hmem, hnone⟩, herr⟩
  · refine ⟨fun _ => hall, fun _ => ⟨hok, ?_⟩⟩
    rw [startBanList, hok]
    rfl
  · constructor
    · rintro ⟨hok, -⟩
      rw [herr] at hok
      exact absurd hok (by simp)
    · intro hall
      have hsome := hall line hmem
      rw [hnone] at hsome
      exact absurd hsome (by simp)

/-- The record of `corruptFile`. -/
def corruptFileRecord : String × BanEntry UInt64 := ("00", ⟨1000, 4600⟩)

/-- A line of one byte that no text holds, before a record. -/
def corruptFile : Bytes := 255 :: 10 :: banFileOf [corruptFileRecord]

theorem rawLines_corruptFile :
    rawLines corruptFile = [[255], recordLine (banRecord corruptFileRecord)] := by
  have hcut : Lines.cut 10 corruptFile = ([255] :: (Lines.cut 10 (banFileOf [corruptFileRecord])).1,
      (Lines.cut 10 (banFileOf [corruptFileRecord])).2) :=
    Lines.cut_append (l := [255]) (by decide)
  have hone : ∀ l ∈ [recordLine (banRecord corruptFileRecord)], 10 ∉ l := by
    intro l hl
    obtain rfl := List.mem_singleton.mp hl
    exact newline_notMem_utf8 (BanRecord.le_toNat_of_mem_toJson _)
  have hrest : Lines.cut 10 (banFileOf [corruptFileRecord]) =
      ([recordLine (banRecord corruptFileRecord)], []) :=
    Lines.cut_join hone
  rw [rawLines, Lines.pieces, hcut, hrest]
  rfl

/-- **One bad line costs every ban**: the file holds an unexpired record, and
startup loads nothing. -/
theorem corruptFile_loses_record :
    validEntries compactReader corruptFile 2000 = [corruptFileRecord] ∧
    loadUnexpiredEntries compactReader (some corruptFile) 2000 = .error .invalidData ∧
    (startBanList compactReader (some corruptFile) 2000).1 = BanList.new := by
  -- no UTF-8 text has this byte, while the second line is a record
  have hbad : decodeLine [255] = none := by decide
  have hvalid : validEntries compactReader corruptFile 2000 = [corruptFileRecord] := by
    rw [validEntries, rawLines_corruptFile, List.filterMap_cons, hbad, List.filterMap_cons,
      recordLine, decodeLine_utf8, Option.bind_some, unexpiredRecord_toJson readsBack_compactReader,
      if_pos (by decide)]
    rfl
  have hload : loadUnexpiredEntries compactReader (some corruptFile) 2000 =
      .error .invalidData := by
    rcases loadUnexpiredEntries_some compactReader corruptFile 2000 with ⟨hall, -⟩ | ⟨-, herr⟩
    · have hsome := hall [255] (by rw [rawLines_corruptFile]; exact List.mem_cons_self)
      rw [hbad] at hsome
      exact absurd hsome (by simp)
    · exact herr
  refine ⟨hvalid, hload, ?_⟩
  rw [startBanList, hload]
  rfl

end Blindjoin
