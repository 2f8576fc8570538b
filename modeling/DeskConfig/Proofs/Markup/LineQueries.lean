import DeskConfig.Proofs.Markup.Places
import Mathlib.Data.List.Basic
import Mathlib.Data.List.TakeWhile

/-!
Lines asked for one after the other. A cursor answers every question about a text as if the
bytes had been counted from the start for it, whatever it was asked before. A counter that keeps
nothing but an offset and a line, and starts over for a position behind it, gives the same
answers.
-/

namespace DeskConfig.Markup

open Text

/-- What may be asked about the lines of a text, as byte positions. -/
inductive LineQuery where
  | lineAt (pos : Nat)
  | tagLine (stop : Nat)

/-- The answers to questions that are asked one after the other. -/
def answersFrom {σ : Type} (ask : LineQuery → σ → Nat × σ) : List LineQuery → σ → List Nat
  | [], _ => []
  | query :: queries, s =>
    let (line, s) := ask query s
    line :: answersFrom ask queries s

/-- If every answer is right and keeps an invariant, all answers are right. -/
theorem answersFrom_eq_map {σ : Type} (Inv : σ → Prop) {ask : LineQuery → σ → Nat × σ}
    {answer : LineQuery → Nat}
    (hask : ∀ query s, Inv s → Inv (ask query s).2 ∧ (ask query s).1 = answer query)
    {s : σ} (hs : Inv s) (queries : List LineQuery) :
    answersFrom ask queries s = queries.map answer := by
  induction queries generalizing s with
  | nil => rfl
  | cons query queries ih =>
    obtain ⟨hnext, hanswer⟩ := hask query s hs
    rw [List.map_cons, ← hanswer, ← ih hnext]
    rfl

section Bytes

def lineFeed : UInt8 := 0x0A

def lessThan : UInt8 := 0x3C

def bytesOf (text : String) : List UInt8 := text.toUTF8.data.toList

/-- The line of a byte position, counted from the first byte on. -/
def lineAtByte (bytes : List UInt8) (pos : Nat) : Nat :=
  min maxLine (1 + (bytes.take (min pos bytes.length)).count lineFeed)

/-- Past the last byte there are no more lines. -/
theorem lineAtByte_min (bytes : List UInt8) (pos : Nat) :
    lineAtByte bytes (min pos bytes.length) = lineAtByte bytes pos := by
  rw [lineAtByte, lineAtByte, Nat.min_assoc, Nat.min_self]

/-- The position of the last less-than sign before byte `stop`, or else where the search for it
started. -/
def openSign (bytes : List UInt8) (stop : Nat) : Nat :=
  let taken := bytes.take (min stop bytes.length)
  if lessThan ∈ taken then taken.length - 1 - taken.reverse.idxOf lessThan else taken.length

/-- The answer that counting from the first byte on gives. -/
def LineQuery.answer (bytes : List UInt8) : LineQuery → Nat
  | .lineAt pos => lineAtByte bytes pos
  | .tagLine stop => lineAtByte bytes (openSign bytes stop)

end Bytes

/-- Keeps a byte offset and its line. -/
structure LineCounter where
  bytes : List UInt8
  offset : Nat := 0
  line : Nat := 1

namespace LineCounter

/-- A position behind the offset is counted to from the start. -/
def startOver (pos : Nat) (c : LineCounter) : LineCounter :=
  if pos < c.offset then { bytes := c.bytes } else c

/-- Adds the line feeds between the offset and the position. Neither they nor the line grow past
the largest 32-bit number. -/
def lineAt (pos : Nat) (c : LineCounter) : Nat × LineCounter :=
  let pos := min pos c.bytes.length
  let c := c.startOver pos
  let feeds := ((c.bytes.drop c.offset).take (pos - c.offset)).count lineFeed
  let line := min maxLine (c.line + min maxLine feeds)
  (line, { c with offset := pos, line })

def tagLine (stop : Nat) (c : LineCounter) : Nat × LineCounter :=
  c.lineAt (openSign c.bytes stop)

def ask : LineQuery → LineCounter → Nat × LineCounter
  | .lineAt pos => lineAt pos
  | .tagLine stop => tagLine stop

/-- The counter is within the bytes and has the line of its offset. -/
structure On (bytes : List UInt8) (c : LineCounter) : Prop where
  bytes_eq : c.bytes = bytes
  offset_le : c.offset ≤ bytes.length
  line_eq : c.line = lineAtByte bytes c.offset

variable {bytes : List UInt8} {c : LineCounter}

theorem start_on (bytes : List UInt8) : On bytes { bytes } where
  bytes_eq := rfl
  offset_le := Nat.zero_le _
  line_eq := by simp [lineAtByte, maxLine]

theorem On.startOver (h : c.On bytes) (pos : Nat) :
    (c.startOver pos).On bytes ∧ (c.startOver pos).offset ≤ pos := by
  unfold LineCounter.startOver
  split
  · exact ⟨h.bytes_eq ▸ start_on c.bytes, Nat.zero_le pos⟩
  · next hpos => exact ⟨h, Nat.not_lt.mp hpos⟩

/-- Line feeds up to an offset and those from there on are all of them, also where the line has
stopped growing. -/
theorem lineAtByte_add {offset pos : Nat} (hoffset : offset ≤ pos) (hpos : pos ≤ bytes.length) :
    min maxLine (lineAtByte bytes offset +
        min maxLine (((bytes.drop offset).take (pos - offset)).count lineFeed)) =
      lineAtByte bytes pos := by
  have hsplit : bytes.take pos = bytes.take offset ++ (bytes.drop offset).take (pos - offset) := by
    rw [← List.take_add, Nat.add_sub_cancel' hoffset]
  rw [lineAtByte, lineAtByte, Nat.min_eq_left (Nat.le_trans hoffset hpos), Nat.min_eq_left hpos,
    hsplit, List.count_append]
  omega

/-- One answer is right and leaves the counter with the line of its new offset. -/
theorem On.lineAt (h : c.On bytes) (pos : Nat) :
    (c.lineAt pos).2.On bytes ∧ (c.lineAt pos).1 = lineAtByte bytes pos := by
  have hpos : min pos bytes.length ≤ bytes.length := Nat.min_le_right _ _
  have heq := h.bytes_eq
  subst heq
  obtain ⟨⟨hbytes, -, hline⟩, hoffset⟩ := h.startOver (min pos c.bytes.length)
  have hanswer : (c.lineAt pos).1 = lineAtByte c.bytes (min pos c.bytes.length) := by
    unfold LineCounter.lineAt
    simp only [hbytes, hline]
    exact lineAtByte_add hoffset hpos
  exact ⟨⟨hbytes, hpos, hanswer⟩, hanswer.trans (lineAtByte_min _ _)⟩

theorem On.ask (h : c.On bytes) (query : LineQuery) :
    (LineCounter.ask query c).2.On bytes ∧ (LineCounter.ask query c).1 = query.answer bytes := by
  cases query with
  | lineAt pos => exact h.lineAt pos
  | tagLine stop =>
    have hanswer := h.lineAt (openSign c.bytes stop)
    rw [h.bytes_eq] at hanswer
    rw [LineCounter.ask, LineCounter.tagLine, h.bytes_eq]
    exact hanswer

end LineCounter

section Encoding

variable {c : Char} {cs : List Char} {b : UInt8} {target : Nat}

def encode (cs : List Char) : List UInt8 := cs.flatMap String.utf8EncodeChar

theorem bytesOf_eq (text : String) : bytesOf text = encode text.toList := by
  rw [bytesOf, encode, String.toUTF8, ← String.utf8Encode_toList, List.utf8Encode,
    List.toList_data_toByteArray]

theorem length_encode (cs : List Char) : (encode cs).length = byteSize cs := by
  induction cs with
  | nil => rfl
  | cons c cs ih =>
    rw [encode, List.flatMap_cons, List.length_append, String.length_utf8EncodeChar, byteSize]
    exact congrArg _ ih

theorem le_toNat_ofNat {n : Nat} (hlow : 128 ≤ n) (hhigh : n < 256) :
    128 ≤ (UInt8.ofNat n).toNat := by
  rwa [UInt8.toNat_ofNat', Nat.mod_eq_of_lt hhigh]

/-- The bytes of a character of more than one byte are none of the first 128. -/
theorem le_of_mem_utf8EncodeChar (hc : 127 < c.toNat) (hb : b ∈ String.utf8EncodeChar c) :
    128 ≤ b.toNat := by
  have hmore : ¬ c.val.toNat ≤ 127 := Nat.not_le.mpr hc
  simp only [String.utf8EncodeChar, if_neg hmore] at hb
  split at hb
  · simp only [List.mem_cons, List.not_mem_nil, or_false] at hb
    obtain rfl | rfl := hb <;> exact le_toNat_ofNat (by omega) (by omega)
  split at hb
  · simp only [List.mem_cons, List.not_mem_nil, or_false] at hb
    obtain rfl | rfl | rfl := hb <;> exact le_toNat_ofNat (by omega) (by omega)
  · simp only [List.mem_cons, List.not_mem_nil, or_false] at hb
    obtain rfl | rfl | rfl | rfl := hb <;> exact le_toNat_ofNat (by omega) (by omega)

theorem count_take_utf8EncodeChar (hb : b.toNat < 128) (htarget : 0 < target) :
    ((String.utf8EncodeChar c).take target).count b = if c.toNat = b.toNat then 1 else 0 := by
  by_cases hc : c.toNat ≤ 127
  · have hbyte : UInt8.ofNat c.toNat = b ↔ c.toNat = b.toNat := by
      rw [← UInt8.toNat_inj, UInt8.toNat_ofNat', Nat.mod_eq_of_lt (by omega)]
    have hwhole : String.utf8EncodeChar c = [UInt8.ofNat c.toNat] := if_pos hc
    rw [hwhole, List.take_of_length_le htarget, List.count_singleton]
    simp only [beq_iff_eq, hbyte]
  · have habsent : b ∉ (String.utf8EncodeChar c).take target := fun hmem => by
      have := le_of_mem_utf8EncodeChar (by omega) (List.mem_of_mem_take hmem)
      omega
    rw [List.count_eq_zero_of_not_mem habsent, if_neg (by omega)]

/-- Among the first bytes of a text, the ASCII ones are the ASCII characters that start there. -/
theorem count_take_encode {d : Char} (hb : b.toNat < 128) (hd : d.toNat = b.toNat) :
    ((encode cs).take target).count b = (startingBefore target cs).count d := by
  induction cs generalizing target with
  | nil => simp [encode, startingBefore]
  | cons c cs ih =>
    by_cases htarget : target = 0
    · rw [htarget, startingBefore_zero, List.take_zero]
      rfl
    · have hpos := Nat.pos_of_ne_zero htarget
      have hsame : c = d ↔ c.toNat = b.toNat := by rw [← hd, Char.toNat_inj]
      rw [encode, List.flatMap_cons, ← encode, List.take_append, List.count_append,
        String.length_utf8EncodeChar, ih, startingBefore_cons hpos, List.count_cons,
        count_take_utf8EncodeChar hb hpos]
      simp only [beq_iff_eq, hsame]
      exact Nat.add_comm _ _

/-- Counting the bytes of a text is counting its characters. -/
theorem lineAtByte_encode (cs : List Char) (target : Nat) :
    lineAtByte (encode cs) target = lineOf cs target := by
  have hfeeds : ((encode cs).take target).count lineFeed = (startingBefore target cs).count '\n' :=
    count_take_encode (by decide) rfl
  rw [lineAtByte, lineOf, ← hfeeds, ← List.take_eq_take_min]

theorem mem_take_encode_iff {d : Char} (hb : b.toNat < 128) (hd : d.toNat = b.toNat) :
    b ∈ (encode cs).take target ↔ d ∈ startingBefore target cs := by
  rw [← List.count_pos_iff, ← List.count_pos_iff, count_take_encode hb hd]

end Encoding

section Signs

variable {bytes before after : List UInt8} {cs pre tail : List Char} {stop rest : Nat}

theorem openSign_of_not_mem (h : lessThan ∉ bytes.take stop) :
    openSign bytes stop = min stop bytes.length := by
  rw [openSign, ← List.take_eq_take_min]
  simp only [if_neg h, List.length_take]

theorem openSign_append (hafter : lessThan ∉ after.take rest) :
    openSign (before ++ lessThan :: after) (before.length + (rest + 1)) = before.length := by
  have htaken : (before ++ lessThan :: after).take (before.length + (rest + 1)) =
      before ++ lessThan :: after.take rest := by
    rw [List.take_length_add_append, List.take_succ_cons]
  have hback : (before ++ lessThan :: after.take rest).reverse.idxOf lessThan =
      (after.take rest).length := by
    rw [List.reverse_append, List.reverse_cons, List.append_assoc,
      List.idxOf_append_of_notMem (by simpa using hafter), List.length_reverse,
      List.singleton_append, List.idxOf_cons_self, Nat.add_zero]
  rw [openSign, ← List.take_eq_take_min, htaken]
  simp only [hback, List.mem_append, List.mem_cons, true_or, or_true, if_true,
    List.length_append, List.length_cons]
  omega

theorem beforeLastSign_of_not_mem (h : '<' ∉ cs) : beforeLastSign cs = cs := by
  have hall : cs.reverse.dropWhile (· != '<') = [] :=
    List.dropWhile_eq_nil_iff.mpr fun c hc => by
      have hne : c ≠ '<' := fun heq => h (heq ▸ List.mem_reverse.mp hc)
      simp [hne]
  rw [beforeLastSign, hall]

/-- A sign among the characters in front of a position has its byte in front of it. -/
theorem exists_behind_sign (h : startingBefore stop cs = pre ++ '<' :: tail) :
    ∃ rest behind, cs = pre ++ '<' :: behind ∧ stop = byteSize pre + (rest + 1) ∧
      startingBefore rest behind = tail := by
  obtain ⟨others, hothers⟩ := isPrefix_startingBefore stop cs
  obtain ⟨behind, rfl⟩ : ∃ behind, cs = pre ++ '<' :: behind :=
    ⟨tail ++ others, by rw [← hothers, h, List.append_assoc, List.cons_append]⟩
  have hlt : byteSize pre < stop := by
    by_contra hle
    have hpre := (isPrefix_startingBefore stop pre).length_le
    rw [← startingBefore_append_of_ge (Nat.not_lt.mp hle), h, List.length_append,
      List.length_cons] at hpre
    omega
  obtain ⟨rest, rfl⟩ := Nat.exists_eq_add_of_lt hlt
  refine ⟨rest, behind, rfl, by omega, ?_⟩
  rw [startingBefore_append_of_le (by omega), startingBefore_cons (by omega),
    List.append_cancel_left_eq, List.cons.injEq] at h
  have hrest : byteSize pre + rest + 1 - byteSize pre - Char.utf8Size '<' = rest := by
    have hsign : Char.utf8Size '<' = 1 := rfl
    omega
  rw [hrest] at h
  exact h.2

/-- The last less-than sign among the first bytes is the last one among the characters. -/
theorem lineAtByte_openSign (cs : List Char) (stop : Nat) :
    lineAtByte (encode cs) (openSign (encode cs) stop) = tagLineOf cs stop := by
  have hmem : lessThan ∈ (encode cs).take stop ↔ '<' ∈ startingBefore stop cs :=
    mem_take_encode_iff (by decide) rfl
  by_cases hsign : '<' ∈ startingBefore stop cs
  · obtain ⟨pre, tail, hbefore, htail⟩ := exists_last_sign hsign
    obtain ⟨rest, behind, rfl, rfl, hrest⟩ := exists_behind_sign hbefore
    have hencode : encode (pre ++ '<' :: behind) = encode pre ++ lessThan :: encode behind := by
      simp only [encode, List.flatMap_append, List.flatMap_cons]
      rfl
    have hafter : lessThan ∉ (encode behind).take rest := by
      rwa [mem_take_encode_iff (d := '<') (by decide) rfl, hrest]
    have hopen : openSign (encode (pre ++ '<' :: behind)) (byteSize pre + (rest + 1)) =
        byteSize pre := by
      rw [hencode, ← length_encode pre, openSign_append hafter]
    rw [hopen, lineAtByte_encode, lineOf, startingBefore_byteSize, tagLineOf, hbefore,
      beforeLastSign_append htail]
  · rw [openSign_of_not_mem (hmem.not.mpr hsign), lineAtByte_min, lineAtByte_encode, tagLineOf,
      beforeLastSign_of_not_mem hsign, lineOf]

end Signs

def LineCursor.ask : LineQuery → LineCursor → Nat × LineCursor
  | .lineAt pos => LineCursor.lineAt pos
  | .tagLine stop => LineCursor.tagLine stop

/-- One answer is right and leaves the cursor in the text. -/
theorem LineCursor.In.ask {text : List Char} {c : LineCursor} (h : c.In text) (query : LineQuery) :
    (LineCursor.ask query c).2.In text ∧
      (LineCursor.ask query c).1 = query.answer (encode text) := by
  cases query with
  | lineAt pos =>
    obtain ⟨hin, hline⟩ := h.lineAt pos
    exact ⟨hin, hline.trans (lineAtByte_encode text pos).symm⟩
  | tagLine stop =>
    obtain ⟨hin, hline⟩ := h.tagLine stop
    exact ⟨hin, hline.trans (lineAtByte_openSign text stop).symm⟩

/-- Questions about the lines of a text are answered as if its bytes were counted from the first
one on for each of them, whatever was asked before: a position is on the line after the line
feeds among as many bytes, at most all of the text, and lines stop growing at the largest 32-bit
number. A counter of an offset and a line that has stopped growing, which starts over for
positions behind it, gives the same answers. -/
theorem lines_are_counted_from_scratch (text : String) (queries : List LineQuery) :
    answersFrom LineCursor.ask queries (LineCursor.start text.toList) =
      queries.map (LineQuery.answer (bytesOf text)) ∧
    answersFrom LineCounter.ask queries { bytes := bytesOf text } =
      queries.map (LineQuery.answer (bytesOf text)) := by
  constructor
  · rw [bytesOf_eq]
    exact answersFrom_eq_map (LineCursor.In text.toList) (fun query _ h => h.ask query)
      (LineCursor.start_in text.toList) queries
  · exact answersFrom_eq_map (LineCounter.On (bytesOf text)) (fun query _ h => h.ask query)
      (LineCounter.start_on (bytesOf text)) queries

/-- Past the end, back into the middle of a character, and at the sign of a tag. -/
example : answersFrom LineCursor.ask [.lineAt 99, .lineAt 2, .tagLine 7, .lineAt 5]
    (LineCursor.start "\né\n<a>\n".toList) = [4, 2, 3, 3] := by decide

end DeskConfig.Markup
