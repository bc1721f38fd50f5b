/-
  BorderEmpires.Gateway.InitTransfer
  **THE CHUNKED INIT, CUT UP AND PUT TOGETHER AGAIN.**

  A large INIT document travels as text frames, each with its index, the
  number of frames and the length of the whole.  The client joins them and
  drops whatever does not fit the transfer it is in.

  Texts are modelled by their UTF-16 code units.
-/
import Mathlib.Data.Nat.Digits.Defs
import Mathlib.Data.Rat.Floor
import Mathlib.Data.Nat.Digits.Lemmas
import BorderEmpires.Lib.Utf16

namespace BorderEmpires.InitTransfer

open Utf16 (units isHighSurrogate)

/-! ## §1. Frames. -/

abbrev CodeUnits := List ℕ

/-- The longest text there can be, and the largest safe integer. -/
def MAX_SAFE_INTEGER : ℕ := 2 ^ 53 - 1

def INIT_CHUNK_FRAME_PREFIX : CodeUnits := [0x1E, 73, 67]

/-- `"/"` and `"|"`. -/
def SLASH : ℕ := 47
def BAR : ℕ := 124

structure InitChunkFrame where
  index : ℕ
  count : ℕ
  totalChars : ℕ
  data : CodeUnits
  deriving DecidableEq

inductive TargetSize where
  | finite (chars : ℚ)
  | infinity
  | negInfinity

/-- `Math.max(2, Math.floor(targetChars))`, `none` for infinity. -/
def chunkSize : TargetSize → Option ℕ
  | .finite chars => some (max 2 ⌊chars⌋).toNat
  | .infinity => none
  | .negInfinity => some 2

/-- `Math.min(payload.length, start + size)`. -/
def pieceStop (payload : CodeUnits) (size : Option ℕ) (start : ℕ) : ℕ :=
  size.elim payload.length fun n => min payload.length (start + n)

/-- One less where that would part a surrogate pair. -/
def pieceEnd (payload : CodeUnits) (size : Option ℕ) (start : ℕ) : ℕ :=
  let stop := pieceStop payload size start
  if stop < payload.length ∧ (payload[stop - 1]?).any isHighSurrogate = true then stop - 1 else stop

/-- The sizes that `chunkSize` gives: each cut moves on. -/
def Advances (size : Option ℕ) : Prop := ∀ n, size = some n → 2 ≤ n

variable (payload : CodeUnits) (targetChars : TargetSize)

theorem chunkSize_advances : Advances (chunkSize targetChars) := by
  intro n h
  cases targetChars with
  | finite chars =>
      have hn : (max 2 ⌊chars⌋).toNat = n := Option.some.inj h
      have hmax : (2 : ℤ) ≤ max 2 ⌊chars⌋ := le_max_left _ _
      omega
  | infinity => cases h
  | negInfinity => exact Nat.le_of_eq (Option.some.inj h)

theorem pieceStop_le (size : Option ℕ) (start : ℕ) :
    pieceStop payload size start ≤ payload.length := by
  cases size with
  | none => exact Nat.le_refl _
  | some n => exact Nat.min_le_left _ _

theorem add_two_le_pieceStop {payload : CodeUnits} {size : Option ℕ} {start : ℕ}
    (hsize : Advances size) (h : pieceStop payload size start < payload.length) :
    start + 2 ≤ pieceStop payload size start := by
  cases size with
  | none =>
      simp only [pieceStop, Option.elim_none] at h
      omega
  | some n =>
      have hn := hsize n rfl
      simp only [pieceStop, Option.elim_some] at h ⊢
      omega

theorem pieceEnd_le (size : Option ℕ) (start : ℕ) :
    pieceEnd payload size start ≤ payload.length := by
  have hstop := pieceStop_le payload size start
  unfold pieceEnd
  dsimp only
  split
  · omega
  · exact hstop

theorem lt_pieceEnd {payload : CodeUnits} {size : Option ℕ} {start : ℕ} (hsize : Advances size)
    (h : start < payload.length) : start < pieceEnd payload size start := by
  have hstop := pieceStop_le payload size start
  unfold pieceEnd
  dsimp only
  split
  next hback =>
    have hadd := add_two_le_pieceStop hsize hback.1
    omega
  next =>
    by_cases hlt : pieceStop payload size start < payload.length
    · have hadd := add_two_le_pieceStop hsize hlt
      omega
    · omega

/-- The `while` loop of the encoder. -/
def cutPieces (payload : CodeUnits) (targetChars : TargetSize) (start : ℕ) : List CodeUnits :=
  if _ : start < payload.length then
    let stop := pieceEnd payload (chunkSize targetChars) start
    (payload.drop start).take (stop - start) :: cutPieces payload targetChars stop
  else []
termination_by payload.length - start
decreasing_by
  rename_i h
  have hlt := lt_pieceEnd (chunkSize_advances targetChars) h
  omega

/-- `${n}` of a whole number below 10²¹. -/
def decimal (n : ℕ) : CodeUnits :=
  if n = 0 then [48] else ((Nat.digits 10 n).map (· + 48)).reverse

def encodeFrame (frame : InitChunkFrame) : CodeUnits :=
  INIT_CHUNK_FRAME_PREFIX
    ++ (decimal frame.index ++ SLASH :: (decimal frame.count ++ SLASH :: decimal frame.totalChars))
    ++ BAR :: frame.data

def encodeInitChunkFrames (payload : CodeUnits) (targetChars : TargetSize) : List CodeUnits :=
  let pieces := cutPieces payload targetChars 0
  pieces.mapIdx fun index data => encodeFrame ⟨index, pieces.length, payload.length, data⟩

/-- `/^\d+$/.test(part) ? Number(part) : NaN`, exact up to the safe
integers, beyond which the frame is refused anyway. -/
def wholeNumber (part : CodeUnits) : Option ℕ :=
  if part ≠ [] ∧ part.all (fun u => decide (48 ≤ u ∧ u ≤ 57)) = true then
    some (Nat.ofDigits 10 (part.reverse.map (· - 48)))
  else none

def isInitChunkFrame (frame : CodeUnits) : Bool := INIT_CHUNK_FRAME_PREFIX.isPrefixOf frame

/-- The checks on the three numbers of a header. -/
def checkedFrame (data : CodeUnits) : List (Option ℕ) → Option InitChunkFrame
  | [some index, some count, some totalChars] =>
      if index ≤ MAX_SAFE_INTEGER ∧ count ≤ MAX_SAFE_INTEGER ∧ totalChars ≤ MAX_SAFE_INTEGER
          ∧ 1 ≤ count ∧ index < count then some ⟨index, count, totalChars, data⟩
      else none
  | _ => none

def decodeInitChunkFrame (frame : CodeUnits) : Option InitChunkFrame :=
  if isInitChunkFrame frame then
    let body := frame.drop INIT_CHUNK_FRAME_PREFIX.length
    if BAR ∈ body then
      checkedFrame (body.dropWhile (· ≠ BAR)).tail
        (((body.takeWhile (· ≠ BAR)).splitOn SLASH).map wholeNumber)
    else none
  else none

/-! ## §2. The pieces. -/

theorem drop_eq_piece_append {payload : CodeUnits} {start stop : ℕ} (h : start ≤ stop) :
    payload.drop start = (payload.drop start).take (stop - start) ++ payload.drop stop := by
  have hdrop : payload.drop stop = (payload.drop start).drop (stop - start) := by
    rw [List.drop_drop]
    congr 1
    omega
  rw [hdrop, List.take_append_drop]

/-- **The pieces are the payload.** -/
theorem flatten_cutPieces (start : ℕ) :
    (cutPieces payload targetChars start).flatten = payload.drop start := by
  fun_induction cutPieces payload targetChars start with
  | case1 start h stop ih =>
      have hlt : start < stop := lt_pieceEnd (chunkSize_advances targetChars) h
      rw [List.flatten_cons, ih]
      exact (drop_eq_piece_append (Nat.le_of_lt hlt)).symm
  | case2 start h =>
      rw [List.flatten_nil, List.drop_eq_nil_of_le (Nat.not_lt.mp h)]

theorem ne_nil_of_mem_cutPieces {payload : CodeUnits} {targetChars : TargetSize} {start : ℕ} :
    ∀ piece ∈ cutPieces payload targetChars start, piece ≠ [] := by
  fun_induction cutPieces payload targetChars start with
  | case1 start h stop ih =>
      have hlt : start < stop := lt_pieceEnd (chunkSize_advances targetChars) h
      intro piece hpiece
      rcases List.mem_cons.mp hpiece with rfl | hpiece
      · apply List.ne_nil_of_length_pos
        rw [List.length_take, List.length_drop]
        omega
      · exact ih piece hpiece
  | case2 start h =>
      intro piece hpiece
      simp at hpiece

theorem length_le_length_flatten {l : List CodeUnits} (h : ∀ piece ∈ l, piece ≠ []) :
    l.length ≤ l.flatten.length := by
  induction l with
  | nil => simp
  | cons piece l ih =>
      have hpos : 0 < piece.length := List.length_pos_iff.mpr (h piece List.mem_cons_self)
      have hrest := ih fun q hq => h q (List.mem_cons_of_mem piece hq)
      rw [List.length_cons, List.flatten_cons, List.length_append]
      omega

theorem length_cutPieces_le : (cutPieces payload targetChars 0).length ≤ payload.length := by
  have hne : ∀ piece ∈ cutPieces payload targetChars 0, piece ≠ [] := ne_nil_of_mem_cutPieces
  have h := length_le_length_flatten hne
  rwa [flatten_cutPieces, List.drop_zero] at h

theorem cutPieces_ne_nil {payload : CodeUnits} (h : payload ≠ []) :
    cutPieces payload targetChars 0 ≠ [] := by
  intro hnil
  have hflat := flatten_cutPieces payload targetChars 0
  rw [hnil, List.drop_zero] at hflat
  exact h hflat.symm

theorem getLast?_piece {payload : CodeUnits} {start stop : ℕ} (h : start < stop)
    (hle : stop ≤ payload.length) :
    ((payload.drop start).take (stop - start)).getLast? = payload[stop - 1]? := by
  rw [List.getLast?_eq_getElem?, List.length_take, List.length_drop,
    List.getElem?_take_of_lt (by omega), List.getElem?_drop]
  congr 1
  omega

/-- **No cut parts a surrogate pair**: it follows no high surrogate, or it
precedes one. -/
theorem not_partsPair_pieceEnd {start : ℕ} (h : start < payload.length) :
    ¬ Utf16.PartsPair
      ((payload.drop start).take (pieceEnd payload (chunkSize targetChars) start - start))
      (payload.drop (pieceEnd payload (chunkSize targetChars) start)) := by
  have hlt := lt_pieceEnd (chunkSize_advances targetChars) h
  have hle := pieceEnd_le payload (chunkSize targetChars) start
  rintro ⟨u, hu, v, hv, hhigh, hlow⟩
  rw [getLast?_piece hlt hle] at hu
  rw [List.head?_drop] at hv
  unfold pieceEnd at hu hv
  dsimp only at hu hv
  split at hv
  next hback =>
    -- the unit after the cut is the high surrogate that moved it
    rw [hv] at hback
    have hnot := Utf16.isLowSurrogate_of_high hback.2
    rw [hnot] at hlow
    cases hlow
  next hstay =>
    rw [if_neg hstay] at hu
    apply hstay
    have hstop : pieceStop payload (chunkSize targetChars) start < payload.length :=
      (List.getElem?_eq_some_iff.mp hv).1
    refine ⟨hstop, ?_⟩
    rw [hu]
    exact hhigh

/-- **The pieces of a text are texts.** -/
theorem cutPieces_texts (start : ℕ) :
    (∃ text : String, units text = payload.drop start) →
      ∀ piece ∈ cutPieces payload targetChars start, ∃ text : String, units text = piece := by
  fun_induction cutPieces payload targetChars start with
  | case1 start h stop ih =>
      rintro ⟨text, htext⟩ piece hpiece
      have hlt : start < stop := lt_pieceEnd (chunkSize_advances targetChars) h
      rw [drop_eq_piece_append (Nat.le_of_lt hlt)] at htext
      obtain ⟨first, later, hfirst, hlater⟩ :=
        Utf16.units_cut htext (not_partsPair_pieceEnd payload targetChars h)
      rcases List.mem_cons.mp hpiece with rfl | hpiece
      · exact ⟨first, hfirst⟩
      · exact ih ⟨later, hlater⟩ piece hpiece
  | case2 start h =>
      intro _ piece hpiece
      simp at hpiece

/-! ## §3. Reading a frame. -/

theorem decimal_ne_nil (n : ℕ) : decimal n ≠ [] := by
  unfold decimal
  split
  · simp
  next h => simp [Nat.digits_ne_nil_iff_ne_zero.mpr h]

theorem digit_of_mem_decimal {n u : ℕ} (h : u ∈ decimal n) : 48 ≤ u ∧ u ≤ 57 := by
  unfold decimal at h
  split at h
  · simp at h
    omega
  · simp only [List.mem_reverse, List.mem_map] at h
    obtain ⟨d, hd, rfl⟩ := h
    have hten : d < 10 := Nat.digits_lt_base (by omega) hd
    omega

/-- **A whole number reads back.** -/
theorem wholeNumber_decimal (n : ℕ) : wholeNumber (decimal n) = some n := by
  have hall : (decimal n).all (fun u => decide (48 ≤ u ∧ u ≤ 57)) = true := by
    rw [List.all_eq_true]
    intro u hu
    exact decide_eq_true (digit_of_mem_decimal hu)
  rw [wholeNumber, if_pos ⟨decimal_ne_nil n, hall⟩]
  congr 1
  unfold decimal
  split
  next h =>
    subst h
    rfl
  · rw [List.reverse_reverse, List.map_map]
    have hid : ((fun u => u - 48) ∘ fun d => d + 48) = (id : ℕ → ℕ) := by
      funext d
      simp
    rw [hid, List.map_id, Nat.ofDigits_digits]

theorem slash_notMem_decimal (n : ℕ) : SLASH ∉ decimal n := by
  intro h
  have := digit_of_mem_decimal h
  simp [SLASH] at this

def header (frame : InitChunkFrame) : CodeUnits :=
  [SLASH].intercalate [decimal frame.index, decimal frame.count, decimal frame.totalChars]

theorem encodeFrame_eq (frame : InitChunkFrame) :
    encodeFrame frame = INIT_CHUNK_FRAME_PREFIX ++ (header frame ++ BAR :: frame.data) := by
  simp [encodeFrame, header, List.intercalate, List.intersperse]

theorem splitOn_header (frame : InitChunkFrame) :
    (header frame).splitOn SLASH
      = [decimal frame.index, decimal frame.count, decimal frame.totalChars] := by
  apply List.splitOn_intercalate
  · intro part hpart
    simp only [List.mem_cons, List.not_mem_nil, or_false] at hpart
    rcases hpart with rfl | rfl | rfl <;> exact slash_notMem_decimal _
  · simp

theorem basic_of_mem_header {frame : InitChunkFrame} {u : ℕ} (h : u ∈ header frame) : u ≤ 57 := by
  simp only [header, List.intercalate, List.intersperse, List.flatten_cons, List.flatten_nil,
    List.append_nil, List.mem_append, List.mem_singleton] at h
  rcases h with h | rfl | h | rfl | h
  · exact (digit_of_mem_decimal h).2
  · simp [SLASH]
  · exact (digit_of_mem_decimal h).2
  · simp [SLASH]
  · exact (digit_of_mem_decimal h).2

/-- The numbers that the checks let through. -/
structure InitChunkFrame.Sound (frame : InitChunkFrame) : Prop where
  count_le : frame.count ≤ MAX_SAFE_INTEGER
  totalChars_le : frame.totalChars ≤ MAX_SAFE_INTEGER
  index_lt : frame.index < frame.count

/-- **A frame decodes to what it was made of.** -/
theorem decode_encoded {frame : InitChunkFrame} (h : frame.Sound) :
    decodeInitChunkFrame (encodeFrame frame) = some frame := by
  have hindex := h.index_lt
  have hcount := h.count_le
  have htotal := h.totalChars_le
  have hprefix : isInitChunkFrame (encodeFrame frame) = true := by
    rw [isInitChunkFrame, encodeFrame_eq, List.isPrefixOf_iff_prefix]
    exact List.prefix_append _ _
  have hbody : (encodeFrame frame).drop INIT_CHUNK_FRAME_PREFIX.length
      = header frame ++ BAR :: frame.data := by
    rw [encodeFrame_eq, List.drop_left]
  have hno : ∀ u ∈ header frame, (decide (u ≠ BAR)) = true := by
    intro u hu
    have hbasic := basic_of_mem_header hu
    apply decide_eq_true
    unfold BAR
    omega
  unfold decodeInitChunkFrame
  dsimp only
  rw [if_pos hprefix, hbody, if_pos (by simp), List.takeWhile_append_of_pos hno,
    List.dropWhile_append_of_pos hno, List.takeWhile_cons_of_neg (by simp),
    List.dropWhile_cons_of_neg (by simp), List.append_nil, splitOn_header]
  simp only [List.map_cons, List.map_nil, wholeNumber_decimal, checkedFrame, List.tail_cons]
  rw [if_pos ⟨by omega, hcount, htotal, by omega, hindex⟩]

/-! ## §4. The assembler. -/

inductive TransferPhase where
  | downloading
  | building
  deriving DecidableEq

structure InitTransferProgress where
  phase : TransferPhase
  receivedChars : ℕ
  totalChars : ℕ
  startedAt : ℤ
  firstFrameChars : ℕ
  deriving DecidableEq

inductive InitChunkPushResult where
  | progress (progress : InitTransferProgress)
  | complete (progress : InitTransferProgress) (payload : CodeUnits)
  | invalid
  deriving DecidableEq

structure InitTransferAssembler where
  parts : List CodeUnits
  startedAt : ℤ
  firstFrameChars : ℕ
  receivedChars : ℕ
  expectedCount : ℕ
  expectedTotalChars : ℕ
  deriving DecidableEq

def InitTransferAssembler.reset : InitTransferAssembler := ⟨[], 0, 0, 0, 0, 0⟩

def InitTransferAssembler.accept (s : InitTransferAssembler) (now : ℤ) (chunk : InitChunkFrame) :
    InitChunkPushResult × InitTransferAssembler :=
  let startedAt := if chunk.index = 0 then now else s.startedAt
  let firstFrameChars := if chunk.index = 0 then chunk.data.length else s.firstFrameChars
  let parts := s.parts ++ [chunk.data]
  let receivedChars := s.receivedChars + chunk.data.length
  if parts.length < chunk.count then
    (.progress ⟨.downloading, receivedChars, chunk.totalChars, startedAt, firstFrameChars⟩,
      ⟨parts, startedAt, firstFrameChars, receivedChars, chunk.count, chunk.totalChars⟩)
  else
    let payload := parts.flatten
    if payload.length ≠ chunk.totalChars then (.invalid, .reset)
    else
      (.complete ⟨.building, chunk.totalChars, chunk.totalChars, startedAt, firstFrameChars⟩ payload,
        .reset)

/-- `chunk.index === parts.length && …`. -/
def InitTransferAssembler.Continues (s : InitTransferAssembler) (chunk : InitChunkFrame) : Prop :=
  chunk.index = s.parts.length
    ∧ (chunk.index = 0 ∨ (chunk.count = s.expectedCount ∧ chunk.totalChars = s.expectedTotalChars))

instance (s : InitTransferAssembler) (chunk : InitChunkFrame) : Decidable (s.Continues chunk) :=
  inferInstanceAs (Decidable (_ ∧ _))

def InitTransferAssembler.push (s : InitTransferAssembler) (now : ℤ) (frame : CodeUnits) :
    InitChunkPushResult × InitTransferAssembler :=
  match decodeInitChunkFrame frame with
  | none => (.invalid, .reset)
  | some chunk =>
      -- a fresh index 0 always starts a new transfer
      let s := if chunk.index = 0 then .reset else s
      if s.Continues chunk then s.accept now chunk else (.invalid, .reset)

/-- Feed frames in order, each at its own time. -/
def InitTransferAssembler.pushAll (s : InitTransferAssembler) :
    List (ℤ × CodeUnits) → List InitChunkPushResult × InitTransferAssembler
  | [] => ([], s)
  | (now, frame) :: rest =>
      let pushed := s.push now frame
      let later := pushed.2.pushAll rest
      (pushed.1 :: later.1, later.2)

/-! ## §5. A transfer, frame after frame. -/

/-- The frames of the pieces from number `start` on. -/
def framesFrom (pieces : List CodeUnits) (start : ℕ) (rest : List CodeUnits) : List CodeUnits :=
  rest.mapIdx fun i data =>
    encodeFrame ⟨start + i, pieces.length, pieces.flatten.length, data⟩

theorem framesFrom_cons (pieces : List CodeUnits) (start : ℕ) (data : CodeUnits)
    (rest : List CodeUnits) :
    framesFrom pieces start (data :: rest)
      = encodeFrame ⟨start, pieces.length, pieces.flatten.length, data⟩
        :: framesFrom pieces (start + 1) rest := by
  unfold framesFrom
  rw [List.mapIdx_cons, Nat.add_zero]
  congr 2
  funext i data
  rw [Nat.add_right_comm, Nat.add_assoc]

theorem encodeInitChunkFrames_eq :
    encodeInitChunkFrames payload targetChars
      = framesFrom (cutPieces payload targetChars 0) 0 (cutPieces payload targetChars 0) := by
  unfold encodeInitChunkFrames framesFrom
  dsimp only
  rw [flatten_cutPieces, List.drop_zero]
  simp only [Nat.zero_add]

structure Fits (pieces : List CodeUnits) : Prop where
  count_le : pieces.length ≤ MAX_SAFE_INTEGER
  total_le : pieces.flatten.length ≤ MAX_SAFE_INTEGER

/-- The assembler has the pieces of `gone` and waits for the next one.
Before the first piece every state will do. -/
def Awaits (pieces gone : List CodeUnits) (s : InitTransferAssembler) : Prop :=
  gone ≠ [] →
    s.parts = gone ∧ s.expectedCount = pieces.length ∧ s.expectedTotalChars = pieces.flatten.length

/-- **The frame that is due is accepted**: what it is added to is what the
assembler has, or nothing at index 0. -/
theorem push_due {pieces gone rest : List CodeUnits} {data : CodeUnits} (hfits : Fits pieces)
    (hpieces : pieces = gone ++ data :: rest) {s : InitTransferAssembler} (hs : Awaits pieces gone s)
    (now : ℤ) :
    ∃ t : InitTransferAssembler, t.parts = gone ∧
      s.push now (encodeFrame ⟨gone.length, pieces.length, pieces.flatten.length, data⟩)
        = t.accept now ⟨gone.length, pieces.length, pieces.flatten.length, data⟩ := by
  have hlen : pieces.length = gone.length + (rest.length + 1) := by
    rw [hpieces, List.length_append, List.length_cons]
  have hsound : InitChunkFrame.Sound ⟨gone.length, pieces.length, pieces.flatten.length, data⟩ :=
    ⟨hfits.count_le, hfits.total_le, by show gone.length < pieces.length; omega⟩
  unfold InitTransferAssembler.push
  rw [decode_encoded hsound]
  by_cases hgone : gone = []
  · subst hgone
    refine ⟨.reset, rfl, ?_⟩
    dsimp only
    rw [List.length_nil, if_pos rfl, if_pos ⟨rfl, Or.inl rfl⟩]
  · obtain ⟨hparts, hcount, htotal⟩ := hs hgone
    have hindex : gone.length ≠ 0 := fun h => hgone (List.length_eq_zero_iff.mp h)
    refine ⟨s, hparts, ?_⟩
    dsimp only
    rw [if_neg hindex, if_pos ⟨by rw [hparts], Or.inr ⟨hcount.symm, htotal.symm⟩⟩]

theorem push_progress {pieces gone rest : List CodeUnits} {data : CodeUnits} (hfits : Fits pieces)
    (hpieces : pieces = gone ++ data :: rest) (hrest : rest ≠ []) {s : InitTransferAssembler}
    (hs : Awaits pieces gone s) (now : ℤ) :
    (∃ step, (s.push now
        (encodeFrame ⟨gone.length, pieces.length, pieces.flatten.length, data⟩)).1 = .progress step)
      ∧ Awaits pieces (gone ++ [data]) (s.push now
        (encodeFrame ⟨gone.length, pieces.length, pieces.flatten.length, data⟩)).2 := by
  obtain ⟨t, hparts, hpush⟩ := push_due hfits hpieces hs now
  have hpos : 0 < rest.length := List.length_pos_iff.mpr hrest
  have hmore : (t.parts ++ [data]).length < pieces.length := by
    rw [hparts, hpieces]
    simp only [List.length_append, List.length_cons, List.length_nil]
    omega
  rw [hpush]
  unfold InitTransferAssembler.accept
  dsimp only
  rw [if_pos hmore]
  exact ⟨⟨_, rfl⟩, fun _ => ⟨by rw [hparts], rfl, rfl⟩⟩

theorem push_complete {pieces gone : List CodeUnits} {data : CodeUnits} (hfits : Fits pieces)
    (hpieces : pieces = gone ++ [data]) {s : InitTransferAssembler} (hs : Awaits pieces gone s)
    (now : ℤ) :
    ∃ last, (s.push now
      (encodeFrame ⟨gone.length, pieces.length, pieces.flatten.length, data⟩)).1
        = .complete last pieces.flatten := by
  obtain ⟨t, hparts, hpush⟩ := push_due hfits hpieces hs now
  have hall : t.parts ++ [data] = pieces := by rw [hparts, hpieces]
  rw [hpush]
  unfold InitTransferAssembler.accept
  dsimp only
  rw [hall, if_neg (Nat.lt_irrefl _), if_neg (not_not_intro rfl)]
  exact ⟨_, rfl⟩

/-- **A transfer from the piece that is due to its end.**  The induction is
on the pieces still to come; `Awaits` carries it. -/
theorem pushAll_pieces {pieces : List CodeUnits} (hfits : Fits pieces) (rest : List CodeUnits) :
    ∀ (gone : List CodeUnits) (s : InitTransferAssembler) (fed : List (ℤ × CodeUnits)),
      pieces = gone ++ rest → rest ≠ [] → Awaits pieces gone s →
      fed.map Prod.snd = framesFrom pieces gone.length rest →
      ∃ (steps : List InitTransferProgress) (last : InitTransferProgress),
        (s.pushAll fed).1 = steps.map .progress ++ [.complete last pieces.flatten] := by
  induction rest with
  | nil =>
      intro _ _ _ _ hne _ _
      exact absurd rfl hne
  | cons data rest ih =>
      intro gone s fed hpieces _ hs hfed
      rw [framesFrom_cons] at hfed
      obtain ⟨⟨now, frame⟩, later, rfl, rfl, hlater⟩ := List.map_eq_cons_iff.mp hfed
      by_cases hrest : rest = []
      · subst hrest
        have hnil : later = [] := List.map_eq_nil_iff.mp hlater
        subst hnil
        obtain ⟨last, hlast⟩ := push_complete hfits hpieces hs now
        refine ⟨[], last, ?_⟩
        show [_] = _
        rw [hlast]
        rfl
      · obtain ⟨⟨step, hstep⟩, hs'⟩ := push_progress hfits hpieces hrest hs now
        have hlen : (gone ++ [data]).length = gone.length + 1 := by simp
        obtain ⟨steps, last, hrun⟩ := ih (gone ++ [data]) _ later
          (by rw [hpieces, List.append_assoc]; rfl) hrest hs' (by rw [hlater, hlen])
        refine ⟨step :: steps, last, ?_⟩
        show _ :: _ = _
        rw [hstep, hrun]
        rfl

/-! ## §6. Texts. -/

structure HostText where
  text : String
  short : (units text).length ≤ MAX_SAFE_INTEGER

def HostText.units (payload : HostText) : CodeUnits := Utf16.units payload.text

theorem units_ne_nil {text : String} (h : text ≠ "") : units text ≠ [] := by
  intro hnil
  apply h
  apply Utf16.units_injective
  rw [hnil]
  rfl

theorem fits_cutPieces (payload : HostText) (targetChars : TargetSize) :
    Fits (cutPieces payload.units targetChars 0) := by
  have hcount := length_cutPieces_le payload.units targetChars
  have hshort : payload.units.length ≤ MAX_SAFE_INTEGER := payload.short
  refine ⟨Nat.le_trans hcount hshort, ?_⟩
  rw [flatten_cutPieces, List.drop_zero]
  exact hshort

theorem frame_text {frame : InitChunkFrame} {data : String} (h : units data = frame.data) :
    ∃ text : String, units text = encodeFrame frame := by
  have hbasic : ∀ u ∈ INIT_CHUNK_FRAME_PREFIX ++ (header frame ++ [BAR]), u < 0xD800 := by
    intro u hu
    rcases List.mem_append.mp hu with hu | hu
    · simp only [INIT_CHUNK_FRAME_PREFIX, List.mem_cons, List.not_mem_nil, or_false] at hu
      omega
    · rcases List.mem_append.mp hu with hu | hu
      · have hle := basic_of_mem_header hu
        omega
      · simp only [BAR, List.mem_singleton] at hu
        omega
  obtain ⟨front, hfront⟩ := Utf16.exists_units_of_basic hbasic
  refine ⟨front ++ data, ?_⟩
  rw [Utf16.units_append, hfront, h, encodeFrame_eq]
  simp only [List.append_assoc, List.singleton_append]

theorem exists_piece_of_mem_frames {payload : HostText} {targetChars : TargetSize}
    {frame : CodeUnits} (h : frame ∈ encodeInitChunkFrames payload.units targetChars) :
    ∃ chunk : InitChunkFrame, chunk.Sound
      ∧ chunk.data ∈ cutPieces payload.units targetChars 0 ∧ encodeFrame chunk = frame := by
  have hfits := fits_cutPieces payload targetChars
  rw [encodeInitChunkFrames_eq] at h
  obtain ⟨i, hi, rfl⟩ := List.mem_mapIdx.mp h
  refine ⟨_, ⟨hfits.count_le, hfits.total_le, ?_⟩, List.getElem_mem hi, rfl⟩
  show 0 + i < (cutPieces payload.units targetChars 0).length
  omega

/-- **A transfer delivers its payload**, whatever the assembler was in the
middle of: progress for every frame but the last, which completes with the
payload; every frame is a text and so is the data it carries, so no
surrogate pair is parted. -/
theorem init_transfer_delivers (payload : HostText) (targetChars : TargetSize)
    (h : payload.text ≠ "") (s : InitTransferAssembler) (fed : List (ℤ × CodeUnits))
    (hfed : fed.map Prod.snd = encodeInitChunkFrames payload.units targetChars) :
    (∃ (steps : List InitTransferProgress) (last : InitTransferProgress),
        (s.pushAll fed).1 = steps.map .progress ++ [.complete last payload.units])
      ∧ ∀ frame ∈ encodeInitChunkFrames payload.units targetChars,
          (∃ text : String, units text = frame)
            ∧ ∃ (chunk : InitChunkFrame) (data : String),
                decodeInitChunkFrame frame = some chunk ∧ units data = chunk.data := by
  constructor
  · have hne := cutPieces_ne_nil targetChars (units_ne_nil h)
    rw [encodeInitChunkFrames_eq] at hfed
    have hrun := pushAll_pieces (fits_cutPieces payload targetChars) _ [] s fed rfl hne
      (fun hnil => absurd rfl hnil) hfed
    rwa [flatten_cutPieces, List.drop_zero] at hrun
  · intro frame hframe
    obtain ⟨chunk, hsound, hpiece, rfl⟩ := exists_piece_of_mem_frames hframe
    obtain ⟨data, hdata⟩ :=
      cutPieces_texts payload.units targetChars 0 ⟨payload.text, rfl⟩ chunk.data hpiece
    exact ⟨frame_text hdata, chunk, data, decode_encoded hsound, hdata⟩

/-- Two characters outside the basic plane, cut at every second unit: each cut
moves back to the start of a pair.  The assembler is in the middle of another
transfer. -/
theorem init_transfer_delivers_pairs :
    let payload : HostText := ⟨"a😀😀", by decide⟩
    let fed := (encodeInitChunkFrames payload.units (.finite 2)).map fun frame => ((0 : ℤ), frame)
    (∃ (steps : List InitTransferProgress) (last : InitTransferProgress),
        ((⟨[[123]], 5, 1, 1, 4, 90⟩ : InitTransferAssembler).pushAll fed).1
          = steps.map .progress ++ [.complete last payload.units])
      ∧ ∀ frame ∈ encodeInitChunkFrames payload.units (.finite 2),
          (∃ text : String, units text = frame)
            ∧ ∃ (chunk : InitChunkFrame) (data : String),
                decodeInitChunkFrame frame = some chunk ∧ units data = chunk.data :=
  init_transfer_delivers _ _ (by decide) _ _ (by rw [List.map_map]; exact List.map_id _)

end BorderEmpires.InitTransfer
