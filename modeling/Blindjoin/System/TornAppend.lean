import Blindjoin.Round.BanFile
import Blindjoin.System.Recorded

/-!
# Appends that stop halfway

A ban is written as one line behind the bytes the file holds already. A crash or
a full disk may stop the write after any number of bytes of the line
(`Blindjoin.stoppedAppend`), and nothing removes these bytes but the compaction
of the next start.

As long as every append that completes finds the file at the end of a line, no
ban whose append completed is lost (`Blindjoin.completed_bans_load`). An append
behind an unfinished line continues that line, however: the record is written in
full, and what the reader gets to see is no record
(`Blindjoin.torn_append_costs_completed_ban`).
-/

namespace Blindjoin

open JsonText TextCodec

/-! ### Texts of ASCII characters -/

/-- The bytes of a text are those of its characters. -/
theorem utf8_eq_flatMap (s : String) : utf8 s = s.toList.flatMap String.utf8EncodeChar := by
  have hbytes : s.toUTF8 = (s.toList.flatMap String.utf8EncodeChar).toByteArray := by
    rw [← List.utf8Encode, String.utf8Encode_toList]
    rfl
  rw [utf8, hbytes]
  simp

theorem utf8_append (s t : String) : utf8 (s ++ t) = utf8 s ++ utf8 t := by
  rw [utf8_eq_flatMap, utf8_eq_flatMap, utf8_eq_flatMap, String.toList_append,
    List.flatMap_append]

/-- An ASCII character is one byte. -/
theorem flatMap_utf8EncodeChar {cs : List Char} (h : ∀ c ∈ cs, c.toNat < 128) :
    cs.flatMap String.utf8EncodeChar = cs.map fun c => UInt8.ofNat c.toNat := by
  have hone : ∀ c ∈ cs, String.utf8EncodeChar c = [UInt8.ofNat c.toNat] := by
    intro c hc
    have hlt := h c hc
    have hv : c.val.toNat = c.toNat := rfl
    rw [String.utf8EncodeChar]
    simp only [hv]
    rw [if_pos (by omega)]
  rw [List.flatMap_congr hone, List.map_eq_flatMap]

/-- A prefix of the bytes of an ASCII text is a text. -/
theorem take_utf8 {s : String} (h : ∀ c ∈ s.toList, c.toNat < 128) (n : ℕ) :
    (utf8 s).take n = utf8 (String.ofList (s.toList.take n)) := by
  have hprefix : ∀ c ∈ s.toList.take n, c.toNat < 128 := by
    intro c hc
    exact h c (List.mem_of_mem_take hc)
  rw [utf8_eq_flatMap, utf8_eq_flatMap, String.toList_ofList, flatMap_utf8EncodeChar h,
    flatMap_utf8EncodeChar hprefix, List.map_take]

/-- A printed hash is ASCII. -/
theorem toNat_lt_of_mem_hexEncode {bs : Bytes} {c : Char} (h : c ∈ hexEncode bs) :
    c.toNat < 128 := by
  have hdigit : ∀ n, n < 16 → (hexDigit n).toNat < 128 := by decide
  obtain ⟨b, -, hmem⟩ := List.mem_flatMap.mp h
  have hb : b.toNat < 256 := b.toNat_lt
  rcases List.mem_pair.mp hmem with rfl | rfl
  · exact hdigit _ (by omega)
  · exact hdigit _ (by omega)

/-- A printed record is ASCII, if its hash is. -/
theorem BanRecord.toNat_lt_of_mem_toJson {r : BanRecord}
    (h : ∀ c ∈ r.utxoHash.toList, c.toNat < 128) : ∀ c ∈ r.toJson.toList, c.toNat < 128 := by
  have hdigits : ∀ n : ℕ, ∀ c ∈ Nat.toDigits 10 n, c.toNat < 128 := by
    intro n c hc
    have hdigit : c.isDigit = true := Nat.isDigit_of_mem_toDigits (by decide) (by decide) hc
    simp only [Char.isDigit, Bool.and_eq_true, decide_eq_true_eq] at hdigit
    have hle : c.toNat ≤ 57 := hdigit.2
    omega
  have hhash : ∀ c ∈ quoted r.utxoHash.toList, c.toNat < 128 := by
    intro c hc
    simp only [quoted, List.mem_cons, List.mem_append, List.mem_flatMap, List.not_mem_nil,
      or_false] at hc
    rcases hc with rfl | ⟨d, hd, hmem⟩ | rfl
    · decide
    · exact toNat_lt_of_mem_escape (h d hd) hmem
    · decide
  have hkeys : ∀ cs : List Char, (cs.all fun c => Nat.blt c.toNat 128) = true →
      ∀ c ∈ cs, c.toNat < 128 := by
    intro cs hcs c hc
    exact Nat.le_of_ble_eq_true (List.all_eq_true.mp hcs c hc)
  have hkey := hkeys utxoHashKey (by decide)
  have hkey' := hkeys bannedAtKey (by decide)
  have hkey'' := hkeys expiresAtKey (by decide)
  intro c hc
  rw [BanRecord.toJson, String.toList_ofList] at hc
  simp only [List.mem_append, List.mem_singleton] at hc
  rcases hc with hc | hc | hc | hc | hc | hc | rfl
  · exact hkey c hc
  · exact hhash c hc
  · exact hkey' c hc
  · exact hdigits _ c hc
  · exact hkey'' c hc
  · exact hdigits _ c hc
  · decide

/-! ### Appends and restarts -/

/-- The entry an append writes: the hash of the outpoint's text, and the ban. -/
def appendedEntry (E : Externals) (utxoStr : String) (entry : BanEntry UInt64) :
    String × BanEntry UInt64 :=
  (hashUtxoStr E utxoStr, entry)

/-- An append that stops after `written` bytes of its line. The file is created
before the first of them is written. -/
def stoppedAppend (E : Externals) (file : Option Bytes) (utxoStr : String) (entry : BanEntry UInt64)
    (written : ℕ) : Option Bytes :=
  some (file.getD [] ++ (banFileOf [appendedEntry E utxoStr entry]).take written)

/-- What happens to the ban file: an append that completes, an append that stops
after some bytes, and a start of the process, which loads and compacts. -/
inductive BanFileOp
  | append (utxoStr : String) (entry : BanEntry UInt64)
  | stopped (utxoStr : String) (entry : BanEntry UInt64) (written : ℕ)
  | restart (nowSecs : UInt64)
deriving DecidableEq

/-- The ban file, and the entries whose append completed. -/
structure BanFileRun where
  file : Option Bytes
  completed : List (String × BanEntry UInt64)
deriving DecidableEq

section Run

variable (E : Externals) (R : BanRecordReader)

/-- One operation. -/
def BanFileRun.step (s : BanFileRun) : BanFileOp → BanFileRun
  | .append utxoStr entry =>
    ⟨appendBanEntry E s.file utxoStr entry, s.completed ++ [appendedEntry E utxoStr entry]⟩
  | .stopped utxoStr entry written =>
    { s with file := stoppedAppend E s.file utxoStr entry written }
  | .restart nowSecs => { s with file := (startBanList R s.file nowSecs).2 }

/-- A sequence of operations on a file that does not exist before the first append. -/
def banFileRun (ops : List BanFileOp) : BanFileRun := ops.foldl (BanFileRun.step E R) ⟨none, []⟩

/-- What the file holds behind its last newline. -/
def unfinishedLine (file : Option Bytes) : Bytes := (Lines.cut 10 (file.getD [])).2

/-- When an operation costs no completed ban that a load at `nowSecs` is to find:
an append that completes starts a line, and a restart is not ahead of the load by
so much that a ban the load counts as unexpired has expired for it. -/
def BanFileOp.Harmless (nowSecs : UInt64) (s : BanFileRun) : BanFileOp → Prop
  | .append _ _ => unfinishedLine s.file = []
  | .stopped _ _ _ => True
  | .restart t => ∀ e ∈ s.completed, nowSecs < e.2.expiresAt → t < e.2.expiresAt

/-- Every operation of a sequence is harmless where it happens. -/
def HarmlessRun (nowSecs : UInt64) (ops : List BanFileOp) : Prop :=
  ∀ before op after, ops = before ++ op :: after → op.Harmless nowSecs (banFileRun E R before)

end Run

/-! ### Files of text -/

/-- A piece of a text line. -/
def IsLine (l : Bytes) : Prop := 10 ∉ l ∧ ∃ s, l = utf8 s

theorem IsLine.nil : IsLine [] := ⟨List.not_mem_nil, "", rfl⟩

theorem IsLine.append {l l' : Bytes} (h : IsLine l) (h' : IsLine l') : IsLine (l ++ l') := by
  obtain ⟨hnl, s, rfl⟩ := h
  obtain ⟨hnl', s', rfl⟩ := h'
  refine ⟨?_, s ++ s', (utf8_append s s').symm⟩
  rw [List.mem_append, not_or]
  exact ⟨hnl, hnl'⟩

/-- A record is a line. -/
theorem isLine_recordLine (r : BanRecord) : IsLine (recordLine r) :=
  ⟨newline_notMem_utf8 (BanRecord.le_toNat_of_mem_toJson r), r.toJson, rfl⟩

/-- Every prefix of an appended record is a piece of a line: the record is ASCII,
so no character is cut in two. -/
theorem isLine_take_recordLine (E : Externals) (utxoStr : String) (entry : BanEntry UInt64)
    (n : ℕ) : IsLine ((recordLine (banRecord (appendedEntry E utxoStr entry))).take n) := by
  have hhash : ∀ c ∈ (banRecord (appendedEntry E utxoStr entry)).utxoHash.toList,
      c.toNat < 128 := by
    intro c hc
    have hmem : c ∈ hexEncode (E.sha256 (utf8 utxoStr)).toList := by
      simpa [banRecord, appendedEntry, hashUtxoStr] using hc
    exact toNat_lt_of_mem_hexEncode hmem
  refine ⟨?_, _, take_utf8 (BanRecord.toNat_lt_of_mem_toJson hhash) n⟩
  intro hmem
  exact (isLine_recordLine _).1 (List.mem_of_mem_take hmem)

/-- A file of text: complete lines, and an unfinished one, which may be empty. -/
structure TextFile (content : Bytes) (lines : List Bytes) (tail : Bytes) : Prop where
  content : content = Lines.join 10 lines ++ tail
  lines : ∀ l ∈ lines, IsLine l
  tail : IsLine tail

namespace TextFile

variable {content piece tail : Bytes} {lines : List Bytes} {R : BanRecordReader} {nowSecs : UInt64}

theorem nil : TextFile [] [] [] := ⟨rfl, by simp, IsLine.nil⟩

theorem cut (h : TextFile content lines tail) : Lines.cut 10 content = (lines, tail) := by
  rw [h.content]
  exact Lines.cut_join_append (fun l hl => (h.lines l hl).1) h.tail.1

/-- An empty file has no line. -/
theorem lines_eq_nil (h : TextFile [] lines tail) : lines = [] :=
  (congrArg Prod.fst h.cut).symm

/-- What is written continues the unfinished line. -/
theorem write (h : TextFile content lines tail) (hp : IsLine piece) :
    TextFile (content ++ piece) lines (tail ++ piece) := by
  refine ⟨?_, h.lines, h.tail.append hp⟩
  rw [h.content, List.append_assoc]

/-- A newline finishes it. -/
theorem newline (h : TextFile content lines tail) :
    TextFile (content ++ [10]) (lines ++ [tail]) [] := by
  refine ⟨?_, ?_, IsLine.nil⟩
  · rw [h.content, Lines.join_append, List.append_nil, List.append_assoc]
    simp [Lines.join]
  · intro l hl
    rcases List.mem_append.mp hl with hl | hl
    · exact h.lines l hl
    · obtain rfl := List.mem_singleton.mp hl
      exact h.tail

/-- A file of records. -/
theorem of_banFileOf (entries : List (String × BanEntry UInt64)) :
    TextFile (banFileOf entries) (entries.map fun e => recordLine (banRecord e)) [] := by
  refine ⟨by rw [banFileOf, List.append_nil], ?_, IsLine.nil⟩
  intro l hl
  obtain ⟨e, -, rfl⟩ := List.mem_map.mp hl
  exact isLine_recordLine _

/-- A file of text loads. -/
theorem load (h : TextFile content lines tail) :
    loadUnexpiredEntries R (some content) nowSecs = .ok (validEntries R content nowSecs) := by
  have htext : ∀ l, IsLine l → (decodeLine l).isSome := by
    rintro l ⟨-, s, rfl⟩
    rw [decodeLine_utf8]
    rfl
  have hall : ∀ l ∈ rawLines content, (decodeLine l).isSome := by
    intro l hl
    rw [rawLines, Lines.pieces, h.cut, List.mem_append] at hl
    rcases hl with hl | hl
    · exact htext l (h.lines l hl)
    · split_ifs at hl
      · exact absurd hl List.not_mem_nil
      · obtain rfl := List.mem_singleton.mp hl
        exact htext _ h.tail
  rcases loadUnexpiredEntries_some R content nowSecs with ⟨-, hok⟩ | ⟨⟨l, hmem, hnone⟩, -⟩
  · exact hok
  · have hsome := hall l hmem
    rw [hnone] at hsome
    exact absurd hsome (by simp)

/-- An unexpired record with a line of its own is loaded, whatever the other lines
are. -/
theorem mem_validEntries (hR : R.ReadsBack) (h : TextFile content lines tail)
    {e : String × BanEntry UInt64}
    (hmem : recordLine (banRecord e) ∈ lines) (hlive : nowSecs < e.2.expiresAt) :
    e ∈ validEntries R content nowSecs := by
  rw [validEntries, List.mem_filterMap]
  refine ⟨recordLine (banRecord e), ?_, ?_⟩
  · rw [rawLines, Lines.pieces, h.cut]
    exact List.mem_append_left _ hmem
  · rw [recordLine, decodeLine_utf8, Option.bind_some, unexpiredRecord_toJson hR, if_pos hlive]

/-- What an append writes: its record and a newline. -/
theorem banFileOf_singleton (e : String × BanEntry UInt64) :
    banFileOf [e] = recordLine (banRecord e) ++ [10] := by simp [banFileOf, Lines.join]

/-- What an append that stops leaves is a file of text, and no complete line is
gone. -/
theorem stopped (E : Externals) (h : TextFile content lines tail) (utxoStr : String)
    (entry : BanEntry UInt64) (written : ℕ) :
    ∃ lines' tail', TextFile
      (content ++ (banFileOf [appendedEntry E utxoStr entry]).take written) lines' tail' ∧
      ∀ l ∈ lines, l ∈ lines' := by
  have hpart := isLine_take_recordLine E utxoStr entry written
  rw [banFileOf_singleton]
  by_cases hle : written ≤ (recordLine (banRecord (appendedEntry E utxoStr entry))).length
  -- the newline is not reached
  · rw [List.take_append_of_le_length hle]
    exact ⟨_, _, h.write hpart, fun l hl => hl⟩
  · have hall : (recordLine (banRecord (appendedEntry E utxoStr entry)) ++ [10]).take written =
        recordLine (banRecord (appendedEntry E utxoStr entry)) ++ [10] := by
      refine List.take_of_length_le ?_
      rw [List.length_append, List.length_singleton]
      omega
    rw [hall, ← List.append_assoc]
    exact ⟨_, _, (h.write (isLine_recordLine _)).newline, fun l hl => List.mem_append_left _ hl⟩

end TextFile

/-! ### What survives -/

section Survives

variable {E : Externals} {R : BanRecordReader} {nowSecs : UInt64} {s : BanFileRun}

/-- Every completed ban that a load at `nowSecs` is to find has a line of its own. -/
def BanFileRun.Keeps (nowSecs : UInt64) (s : BanFileRun) : Prop :=
  ∃ lines tail, TextFile (s.file.getD []) lines tail ∧
    ∀ e ∈ s.completed, nowSecs < e.2.expiresAt → recordLine (banRecord e) ∈ lines

/-- **A harmless operation loses no completed ban.** -/
theorem BanFileRun.Keeps.step (hR : R.ReadsBack) (h : s.Keeps nowSecs) {op : BanFileOp}
    (hop : op.Harmless nowSecs s) : (s.step E R op).Keeps nowSecs := by
  obtain ⟨lines, tail, htext, hkept⟩ := h
  cases op with
  | append utxoStr entry =>
    -- the unfinished line is empty, so the line that is finished is the record
    have htail : tail = [] := by
      rw [BanFileOp.Harmless, unfinishedLine, htext.cut] at hop
      exact hop
    obtain rfl := htail
    refine ⟨lines ++ [recordLine (banRecord (appendedEntry E utxoStr entry))], [], ?_, ?_⟩
    · have hnew := (htext.write (isLine_recordLine
        (banRecord (appendedEntry E utxoStr entry)))).newline
      rw [List.nil_append, List.append_assoc, ← TextFile.banFileOf_singleton] at hnew
      exact hnew
    · intro e he hlive
      rcases List.mem_append.mp he with he | he
      · exact List.mem_append_left _ (hkept e he hlive)
      · obtain rfl := List.mem_singleton.mp he
        exact List.mem_append_right _ (List.mem_singleton_self _)
  | stopped utxoStr entry written =>
    obtain ⟨lines', tail', htext', hsub⟩ := htext.stopped E utxoStr entry written
    refine ⟨lines', tail', htext', ?_⟩
    intro e he hlive
    exact hsub _ (hkept e he hlive)
  | restart t =>
    cases hfile : s.file with
    | none =>
      -- no file was made, so no append completed that counts
      rw [hfile, Option.getD_none] at htext
      obtain rfl := htext.lines_eq_nil
      refine ⟨[], [], ?_, hkept⟩
      simp only [BanFileRun.step, hfile]
      exact TextFile.nil
    | some content =>
      rw [hfile, Option.getD_some] at htext
      refine ⟨(validEntries R content t).map fun e => recordLine (banRecord e), [], ?_, ?_⟩
      · simp only [BanFileRun.step, hfile, startBanList, compactBanFile, htext.load]
        exact TextFile.of_banFileOf _
      · intro e he hlive
        refine List.mem_map_of_mem ?_
        exact htext.mem_validEntries hR (hkept e he hlive) (hop e he hlive)

/-- **Nor does a run of harmless operations.** -/
theorem keeps_of_harmlessRun (hR : R.ReadsBack) {ops : List BanFileOp}
    (h : HarmlessRun E R nowSecs ops) :
    (banFileRun E R ops).Keeps nowSecs := by
  -- the last operation comes behind a run that is harmless as well
  induction ops using List.reverseRecOn with
  | nil => exact ⟨[], [], TextFile.nil, fun e he => absurd he List.not_mem_nil⟩
  | append_singleton ops op ih =>
    have hbefore : HarmlessRun E R nowSecs ops := by
      rintro before op' after rfl
      exact h before op' (after ++ [op]) (by simp)
    have hstep := (ih hbefore).step (E := E) hR (h ops op [] rfl)
    rw [banFileRun, List.foldl_append]
    exact hstep

/-- A run is harmless up to its last operation, and that one is. -/
theorem HarmlessRun.append_singleton {ops : List BanFileOp}
    (h : HarmlessRun E R nowSecs ops) (op : BanFileOp)
    (hop : op.Harmless nowSecs (banFileRun E R ops)) :
    HarmlessRun E R nowSecs (ops ++ [op]) := by
  intro before op' after heq
  rcases List.eq_nil_or_concat after with rfl | ⟨after', last, rfl⟩
  · obtain ⟨rfl, hlast⟩ := List.append_inj' heq rfl
    obtain rfl := (List.cons.inj hlast).1
    exact hop
  · rw [List.concat_eq_append, ← List.cons_append, ← List.append_assoc] at heq
    obtain ⟨rfl, -⟩ := List.append_inj' heq rfl
    exact h before op' after' rfl

/-- A restart leaves no unfinished line. -/
theorem BanFileRun.Keeps.unfinishedLine_restart (h : s.Keeps nowSecs) (E : Externals)
    (R : BanRecordReader) (t : UInt64) : unfinishedLine (s.step E R (.restart t)).file = [] := by
  obtain ⟨lines, tail, htext, -⟩ := h
  cases hfile : s.file with
  | none =>
    simp only [BanFileRun.step, hfile]
    rfl
  | some content =>
    rw [hfile, Option.getD_some] at htext
    simp only [BanFileRun.step, hfile, startBanList, compactBanFile, htext.load, unfinishedLine,
      Option.getD_some, (TextFile.of_banFileOf _).cut]

/-- **No completed ban is lost where no append continues an unfinished line.** -/
theorem completed_bans_load (hR : R.ReadsBack) {ops : List BanFileOp}
    (h : HarmlessRun E R nowSecs ops) :
    ∃ entries, loadUnexpiredEntries R (banFileRun E R ops).file nowSecs = .ok entries ∧
      ∀ e ∈ (banFileRun E R ops).completed, nowSecs < e.2.expiresAt → e ∈ entries := by
  obtain ⟨lines, tail, htext, hkept⟩ := keeps_of_harmlessRun hR h
  cases hfile : (banFileRun E R ops).file with
  | none =>
    rw [hfile, Option.getD_none] at htext
    obtain rfl := htext.lines_eq_nil
    exact ⟨[], rfl, fun e he hlive => absurd (hkept e he hlive) List.not_mem_nil⟩
  | some content =>
    rw [hfile, Option.getD_some] at htext
    refine ⟨_, htext.load, ?_⟩
    intro e he hlive
    exact htext.mem_validEntries hR (hkept e he hlive) hlive

end Survives

/-- The first ban is recorded and its process stopped; the next one records the second ban, but
the disk is full after one byte of it; the third process records it again. -/
def mendedRun : List BanFileOp := [
  .append firstCoin.toText ⟨1000, 4600⟩, .restart 1100,
  .stopped secondCoin.toText ⟨1200, 4800⟩ 1, .restart 1300,
  .append secondCoin.toText ⟨1400, 5000⟩]

theorem harmlessRun_mendedRun : HarmlessRun session.externals compactReader 2000 mendedRun := by
  have hnil : HarmlessRun session.externals compactReader 2000 [] := by
    intro before op after heq
    exact absurd heq.symm (by simp)
  have hrestart : ∀ t, t ≤ 2000 → ∀ s : BanFileRun, (BanFileOp.restart t).Harmless 2000 s := by
    intro t ht s e _ hlive
    exact UInt64.lt_of_le_of_lt ht hlive
  have h1 := hnil.append_singleton (.append firstCoin.toText ⟨1000, 4600⟩) rfl
  have h2 := h1.append_singleton (.restart 1100) (hrestart 1100 (by decide) _)
  have h3 := h2.append_singleton (.stopped secondCoin.toText ⟨1200, 4800⟩ 1) trivial
  have h4 := h3.append_singleton (.restart 1300) (hrestart 1300 (by decide) _)
  have htail : unfinishedLine (banFileRun session.externals compactReader
      [.append firstCoin.toText ⟨1000, 4600⟩, .restart 1100,
        .stopped secondCoin.toText ⟨1200, 4800⟩ 1, .restart 1300]).file = [] :=
    (keeps_of_harmlessRun readsBack_compactReader h3).unfinishedLine_restart session.externals
      compactReader 1300
  exact h4.append_singleton (.append secondCoin.toText ⟨1400, 5000⟩) htail

theorem completed_bans_load_mendedRun :
    ∃ entries, loadUnexpiredEntries compactReader
        (banFileRun session.externals compactReader mendedRun).file 2000 = .ok entries ∧
      ∀ e ∈ (banFileRun session.externals compactReader mendedRun).completed,
        2000 < e.2.expiresAt → e ∈ entries :=
  completed_bans_load readsBack_compactReader harmlessRun_mendedRun

/-! ### What is lost -/

/-- An append leaves a file that loads. -/
theorem TextFile.load_append {content tail : Bytes} {lines : List Bytes}
    (h : TextFile content lines tail) (R : BanRecordReader) (e : String × BanEntry UInt64)
    (nowSecs : UInt64) :
    loadUnexpiredEntries R (some (content ++ banFileOf [e])) nowSecs =
      .ok (validEntries R (content ++ banFileOf [e]) nowSecs) := by
  have hnew := (h.write (isLine_recordLine (banRecord e))).newline
  rw [List.append_assoc, ← TextFile.banFileOf_singleton] at hnew
  exact hnew.load

/-- An append behind an unfinished line: the reader is given one line, which the
unfinished one starts. -/
theorem TextFile.validEntries_append {content tail : Bytes} {lines : List Bytes}
    (h : TextFile content lines tail) (R : BanRecordReader) (e : String × BanEntry UInt64)
    (nowSecs : UInt64) :
    validEntries R (content ++ banFileOf [e]) nowSecs =
      (lines ++ [tail ++ recordLine (banRecord e)]).filterMap fun line =>
        (decodeLine line).bind (unexpiredRecord R nowSecs) := by
  have hnew := (h.write (isLine_recordLine (banRecord e))).newline
  rw [List.append_assoc, ← TextFile.banFileOf_singleton] at hnew
  rw [validEntries, rawLines, Lines.pieces, hnew.cut, if_pos rfl, List.append_nil]

/-- A record behind an opening brace is no record. -/
theorem unexpiredRecord_brace (r : BanRecord) (nowSecs : UInt64) :
    unexpiredRecord compactReader nowSecs (String.ofList (Char.ofNat 123 :: r.toJson.toList)) =
      none := by
  obtain ⟨mid, hmid⟩ := r.exists_toList_toJson
  have htext : (String.ofList (Char.ofNat 123 :: r.toJson.toList)).toList =
      Char.ofNat 123 :: (Char.ofNat 123 :: mid ++ [Char.ofNat 125]) := by
    rw [String.toList_ofList, hmid, List.cons_append]
  have hkey : utxoHashKey = Char.ofNat 123 :: '"' :: utxoHashKey.tail.tail := by decide
  -- the second brace stands where the name of the first field is expected
  have hexpect : JsonText.expect utxoHashKey
      (Char.ofNat 123 :: (Char.ofNat 123 :: mid ++ [Char.ofNat 125])) = none := by
    rw [hkey, List.cons_append, JsonText.expect, if_pos rfl, JsonText.expect,
      if_neg (by decide)]
  have hread : compactReader.fromStr (String.ofList (Char.ofNat 123 :: r.toJson.toList)) =
      none := by
    rw [compactReader_fromStr, readCompact, htext, hexpect]
  rw [unexpiredRecord, trim_of_braces htext, hread]
  exact ite_self none

/-- The first byte of a record is the brace. -/
theorem take_one_banFileOf (e : String × BanEntry UInt64) : (banFileOf [e]).take 1 = [123] := by
  obtain ⟨mid, hmid⟩ := (banRecord e).exists_toList_toJson
  have hbrace : String.utf8EncodeChar (Char.ofNat 123) = [123] := by decide
  rw [TextFile.banFileOf_singleton, recordLine, utf8_eq_flatMap, hmid, List.flatMap_cons, hbrace]
  rfl

/-- **A record behind a brace is lost**, whatever it is and whenever the file is loaded. -/
theorem load_brace_banFileOf (e : String × BanEntry UInt64) (nowSecs : UInt64) :
    loadUnexpiredEntries compactReader (some ([123] ++ banFileOf [e])) nowSecs = .ok [] := by
  have hbrace : utf8 (String.ofList [Char.ofNat 123]) = [123] := by decide
  have htorn : TextFile [123] [] [123] := ⟨rfl, by simp, by decide, _, hbrace.symm⟩
  have htext : ∀ t : String, String.ofList [Char.ofNat 123] ++ t =
      String.ofList (Char.ofNat 123 :: t.toList) := by
    intro t
    rw [← String.toList_inj, String.toList_append, String.toList_ofList, String.toList_ofList]
    rfl
  rw [htorn.load_append, htorn.validEntries_append, List.nil_append, recordLine, ← hbrace,
    ← utf8_append, List.filterMap_cons, decodeLine_utf8, Option.bind_some, htext,
    unexpiredRecord_brace]
  rfl

/-- The disk is full after one byte of the first record, and the process goes on:
the second record is written in full. -/
def tornRun : List BanFileOp :=
  [.stopped firstCoin.toText ⟨1000, 4600⟩ 1, .append secondCoin.toText ⟨1000, 4600⟩]

/-- The file of such a run: a brace, and the second record. -/
theorem file_of_stopped_append (E : Externals) (R : BanRecordReader) (utxoStr utxoStr' : String)
    (entry entry' : BanEntry UInt64) :
    (banFileRun E R [.stopped utxoStr entry 1, .append utxoStr' entry']).file =
      some ([123] ++ banFileOf [appendedEntry E utxoStr' entry']) := by
  simp only [banFileRun, List.foldl_cons, List.foldl_nil, BanFileRun.step, stoppedAppend,
    appendBanEntry, Option.getD_none, Option.getD_some, List.nil_append,
    take_one_banFileOf (appendedEntry E utxoStr entry)]
  rfl

/-- **An append that stopped costs the completed ban that follows it.** -/
theorem torn_append_costs_completed_ban :
    (hashUtxoStr session.externals secondCoin.toText, (⟨1000, 4600⟩ : BanEntry UInt64)) ∈
      (banFileRun session.externals compactReader tornRun).completed ∧
    loadUnexpiredEntries compactReader
      (banFileRun session.externals compactReader tornRun).file 2000 = .ok [] := by
  constructor
  · exact List.mem_singleton_self _
  · rw [tornRun, file_of_stopped_append]
    exact load_brace_banFileOf _ 2000

end Blindjoin
