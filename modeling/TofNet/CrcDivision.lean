import TofNet.BinaryDivision
import TofNet.CcbReaders

/-!
# The checksum is a remainder

`crcFast` goes through a message byte by byte, with a table of 256 words. Here
the table is written down as the source has it, and what the loop computes is
shown to be the remainder of the message by the polynomial of CRC-32, whose
bits it takes one by one (`crcFast_remainder`).

A remainder tells a message from any other that differs from it in a burst of
up to 32 bits. So no burst gets past the two readers of the CCB
(`readers_refuse_burst`).

`BinaryDivision` has the mathematics, for any register and any divisor. Here it
is applied: the register has 32 bits, the divisor is the polynomial of CRC-32,
and the bits of the message are those that the loop takes, in its order. The
register of the source is the other way round from that of the library, as
CRC-32 takes the lowest bit of a byte first; this is what `reflect` is about,
and it is the only place where the two have to be compared bit by bit.
-/

open BinaryDivision Polynomial

/-! ## The table

The source has the table written out, and does not say what it is a table of.
That it is the one that a loop over eight bits makes of the polynomial is
checked entry by entry; behind that the numbers of the table do not come up
again. -/

/-- **`crcTable`**, as it is written in the source. -/
def crcTableEntries : List UInt32 := [
    0x00000000, 0x04C11DB7, 0x09823B6E, 0x0D4326D9, 0x130476DC, 0x17C56B6B, 0x1A864DB2, 0x1E475005,
    0x2608EDB8, 0x22C9F00F, 0x2F8AD6D6, 0x2B4BCB61, 0x350C9B64, 0x31CD86D3, 0x3C8EA00A, 0x384FBDBD,
    0x4C11DB70, 0x48D0C6C7, 0x4593E01E, 0x4152FDA9, 0x5F15ADAC, 0x5BD4B01B, 0x569796C2, 0x52568B75,
    0x6A1936C8, 0x6ED82B7F, 0x639B0DA6, 0x675A1011, 0x791D4014, 0x7DDC5DA3, 0x709F7B7A, 0x745E66CD,
    0x9823B6E0, 0x9CE2AB57, 0x91A18D8E, 0x95609039, 0x8B27C03C, 0x8FE6DD8B, 0x82A5FB52, 0x8664E6E5,
    0xBE2B5B58, 0xBAEA46EF, 0xB7A96036, 0xB3687D81, 0xAD2F2D84, 0xA9EE3033, 0xA4AD16EA, 0xA06C0B5D,
    0xD4326D90, 0xD0F37027, 0xDDB056FE, 0xD9714B49, 0xC7361B4C, 0xC3F706FB, 0xCEB42022, 0xCA753D95,
    0xF23A8028, 0xF6FB9D9F, 0xFBB8BB46, 0xFF79A6F1, 0xE13EF6F4, 0xE5FFEB43, 0xE8BCCD9A, 0xEC7DD02D,
    0x34867077, 0x30476DC0, 0x3D044B19, 0x39C556AE, 0x278206AB, 0x23431B1C, 0x2E003DC5, 0x2AC12072,
    0x128E9DCF, 0x164F8078, 0x1B0CA6A1, 0x1FCDBB16, 0x018AEB13, 0x054BF6A4, 0x0808D07D, 0x0CC9CDCA,
    0x7897AB07, 0x7C56B6B0, 0x71159069, 0x75D48DDE, 0x6B93DDDB, 0x6F52C06C, 0x6211E6B5, 0x66D0FB02,
    0x5E9F46BF, 0x5A5E5B08, 0x571D7DD1, 0x53DC6066, 0x4D9B3063, 0x495A2DD4, 0x44190B0D, 0x40D816BA,
    0xACA5C697, 0xA864DB20, 0xA527FDF9, 0xA1E6E04E, 0xBFA1B04B, 0xBB60ADFC, 0xB6238B25, 0xB2E29692,
    0x8AAD2B2F, 0x8E6C3698, 0x832F1041, 0x87EE0DF6, 0x99A95DF3, 0x9D684044, 0x902B669D, 0x94EA7B2A,
    0xE0B41DE7, 0xE4750050, 0xE9362689, 0xEDF73B3E, 0xF3B06B3B, 0xF771768C, 0xFA325055, 0xFEF34DE2,
    0xC6BCF05F, 0xC27DEDE8, 0xCF3ECB31, 0xCBFFD686, 0xD5B88683, 0xD1799B34, 0xDC3ABDED, 0xD8FBA05A,
    0x690CE0EE, 0x6DCDFD59, 0x608EDB80, 0x644FC637, 0x7A089632, 0x7EC98B85, 0x738AAD5C, 0x774BB0EB,
    0x4F040D56, 0x4BC510E1, 0x46863638, 0x42472B8F, 0x5C007B8A, 0x58C1663D, 0x558240E4, 0x51435D53,
    0x251D3B9E, 0x21DC2629, 0x2C9F00F0, 0x285E1D47, 0x36194D42, 0x32D850F5, 0x3F9B762C, 0x3B5A6B9B,
    0x0315D626, 0x07D4CB91, 0x0A97ED48, 0x0E56F0FF, 0x1011A0FA, 0x14D0BD4D, 0x19939B94, 0x1D528623,
    0xF12F560E, 0xF5EE4BB9, 0xF8AD6D60, 0xFC6C70D7, 0xE22B20D2, 0xE6EA3D65, 0xEBA91BBC, 0xEF68060B,
    0xD727BBB6, 0xD3E6A601, 0xDEA580D8, 0xDA649D6F, 0xC423CD6A, 0xC0E2D0DD, 0xCDA1F604, 0xC960EBB3,
    0xBD3E8D7E, 0xB9FF90C9, 0xB4BCB610, 0xB07DABA7, 0xAE3AFBA2, 0xAAFBE615, 0xA7B8C0CC, 0xA379DD7B,
    0x9B3660C6, 0x9FF77D71, 0x92B45BA8, 0x9675461F, 0x8832161A, 0x8CF30BAD, 0x81B02D74, 0x857130C3,
    0x5D8A9099, 0x594B8D2E, 0x5408ABF7, 0x50C9B640, 0x4E8EE645, 0x4A4FFBF2, 0x470CDD2B, 0x43CDC09C,
    0x7B827D21, 0x7F436096, 0x7200464F, 0x76C15BF8, 0x68860BFD, 0x6C47164A, 0x61043093, 0x65C52D24,
    0x119B4BE9, 0x155A565E, 0x18197087, 0x1CD86D30, 0x029F3D35, 0x065E2082, 0x0B1D065B, 0x0FDC1BEC,
    0x3793A651, 0x3352BBE6, 0x3E119D3F, 0x3AD08088, 0x2497D08D, 0x2056CD3A, 0x2D15EBE3, 0x29D4F654,
    0xC5A92679, 0xC1683BCE, 0xCC2B1D17, 0xC8EA00A0, 0xD6AD50A5, 0xD26C4D12, 0xDF2F6BCB, 0xDBEE767C,
    0xE3A1CBC1, 0xE760D676, 0xEA23F0AF, 0xEEE2ED18, 0xF0A5BD1D, 0xF464A0AA, 0xF9278673, 0xFDE69BC4,
    0x89B8FD09, 0x8D79E0BE, 0x803AC667, 0x84FBDBD0, 0x9ABC8BD5, 0x9E7D9662, 0x933EB0BB, 0x97FFAD0C,
    0xAFB010B1, 0xAB710D06, 0xA6322BDF, 0xA2F33668, 0xBCB4666D, 0xB8757BDA, 0xB5365D03, 0xB1F740B4]

/-- `POLYNOMIAL`. -/
def crcPoly : BitVec 32 := 0x04C11DB7

/-- A byte of the message, with that table. -/
def crcStepEntries (isMirrored : Bool) (remainder : UInt32) (byte : UInt8) : UInt32 :=
  let data := (if isMirrored then reflect byte else byte) ^^^ (remainder >>> 24).toUInt8
  crcTableEntries.getD data.toNat 0 ^^^ (remainder <<< 8)

/-- `crcFast`, with that table. -/
def crcFastEntries (message : Bytes) (isMirrored : Bool) : UInt32 :=
  message.foldl (crcStepEntries isMirrored) 0xFFFFFFFF ^^^ 0xFFFFFFFF

theorem crcTableEntries_eq :
    crcTableEntries = (List.range 256).map fun i => crcTable (UInt8.ofNat i) := by
  decide +kernel

/-- **The table is the one of the polynomial.** -/
theorem getD_crcTableEntries (i : UInt8) : crcTableEntries.getD i.toNat 0 = crcTable i := by
  rw [crcTableEntries_eq, List.getD_eq_getElem?_getD, List.getElem?_map,
    List.getElem?_range i.toNat_lt]
  show crcTable (UInt8.ofNat i.toNat) = crcTable i
  rw [UInt8.ofNat_toNat]

theorem crcFastEntries_eq (message : Bytes) (isMirrored : Bool) :
    crcFastEntries message isMirrored = crcFast message isMirrored := by
  have hstep : crcStepEntries isMirrored = crcStep isMirrored := by
    funext remainder byte
    rw [crcStepEntries, getD_crcTableEntries, crcStep]
  rw [crcFastEntries, crcFast, hstep]

/-! ## The bits of a message

A message is the list of its bits, eight to a byte, in the order in which they
enter the register. Different messages of the same length have different bits,
so what is known of the bits is known of the message. -/

/-- The bits of a byte, in the order in which `crcFast` takes them. -/
def byteBits (isMirrored : Bool) (byte : UInt8) : List Bool :=
  (List.range 8).map fun i =>
    if isMirrored then byte.toBitVec.getLsbD i else byte.toBitVec.getMsbD i

/-- The bits of a message. -/
def messageBits (isMirrored : Bool) (message : Bytes) : List Bool :=
  message.flatMap (byteBits isMirrored)

@[simp] theorem length_byteBits (isMirrored : Bool) (byte : UInt8) :
    (byteBits isMirrored byte).length = 8 := by
  simp [byteBits]

theorem messageBits_cons (isMirrored : Bool) (byte : UInt8) (message : Bytes) :
    messageBits isMirrored (byte :: message)
      = byteBits isMirrored byte ++ messageBits isMirrored message := List.flatMap_cons

@[simp] theorem length_messageBits (isMirrored : Bool) (message : Bytes) :
    (messageBits isMirrored message).length = 8 * message.length := by
  induction message with
  | nil => rfl
  | cons byte message ih =>
    rw [messageBits_cons, List.length_append, length_byteBits, ih, List.length_cons, Nat.mul_succ,
      Nat.add_comm]

/-- To reflect a byte is to take its bits from the other end. -/
theorem byteBits_reflect (byte : UInt8) :
    byteBits false (reflect byte) = byteBits true byte := by
  have hall : ∀ n < 256,
      byteBits false (reflect (UInt8.ofNat n)) = byteBits true (UInt8.ofNat n) := by
    decide +kernel
  rw [← UInt8.ofNat_toNat (x := byte)]
  exact hall byte.toNat byte.toNat_lt

/-! ## A byte at a time

A step of the loop looks up the byte that leaves the register together with the
byte of the message, and moves the register. That this takes the eight bits of
the byte is the rule of the library for a few bits at a time
(`divide_eq_lookup`). -/

/-- A round of the table's making moves the register up. -/
theorem toBitVec_shift (r : UInt32) :
    (if r &&& 0x80000000 = 0 then r <<< 1 else (r <<< 1) ^^^ 0x04C11DB7).toBitVec
      = shift crcPoly r.toBitVec := by
  have htop : r &&& 0x80000000 = 0 ↔ r.toBitVec.msb = false := by
    rw [← UInt32.toBitVec_inj, UInt32.toBitVec_and]
    show r.toBitVec &&& BitVec.twoPow 32 31 = 0#32 ↔ _
    rw [BitVec.and_twoPow, BitVec.msb_eq_getLsbD_last]
    cases r.toBitVec.getLsbD 31 <;> decide
  rw [shift, feed, Bool.xor_false]
  cases hmsb : r.toBitVec.msb with
  | false =>
    rw [if_pos (htop.mpr hmsb)]
    rfl
  | true =>
    rw [if_neg fun h => absurd (hmsb.symm.trans (htop.mp h)) (by decide)]
    rfl

/-- **An entry of the table** is the remainder of its index. -/
theorem toBitVec_crcTable (i : UInt8) :
    (crcTable i).toBitVec = (shift crcPoly)^[8] (i.toBitVec.setWidth 32 <<< 24) := by
  have hcomm : Function.Semiconj UInt32.toBitVec
      (fun r : UInt32 => if r &&& 0x80000000 = 0 then r <<< 1 else (r <<< 1) ^^^ 0x04C11DB7)
      (shift crcPoly) := toBitVec_shift
  rw [crcTable, (hcomm.iterate_right 8) (i.toUInt32 <<< 24)]
  rfl

/-- A byte's bits at the upper end of the register. -/
theorem atTop_byteBits (byte : UInt8) :
    atTop 32 (byteBits false byte) = byte.toBitVec.setWidth 32 <<< 24 := by
  refine BitVec.eq_of_getMsbD_eq fun i _ => ?_
  rw [getMsbD_atTop (by simp), BitVec.getMsbD_shiftLeft, BitVec.getMsbD_setWidth]
  by_cases hi : i < 8
  · simp [byteBits, hi]
  · simp [byteBits, hi, BitVec.getMsbD_of_ge byte.toBitVec i (Nat.not_lt.mp hi)]

/-- The byte that leaves the register. -/
def leaving (r : UInt32) : BitVec 32 := (r >>> 24).toUInt8.toBitVec.setWidth 32 <<< 24

theorem getMsbD_leaving (r : UInt32) (i : ℕ) :
    (leaving r).getMsbD i = (decide (i < 8) && r.toBitVec.getMsbD i) := by
  have hbyte : (r >>> 24).toUInt8.toBitVec = (r.toBitVec >>> 24).setWidth 8 := rfl
  rw [leaving, hbyte, BitVec.getMsbD_shiftLeft, BitVec.getMsbD_setWidth, BitVec.getMsbD_setWidth,
    BitVec.getMsbD_ushiftRight]
  by_cases hi : i < 8
  · simp [hi]
    omega
  · simp [hi]
    omega

/-- **A step of the loop takes the bits of its byte.** -/
theorem toBitVec_crcStep (isMirrored : Bool) (r : UInt32) (byte : UInt8) :
    (crcStep isMirrored r byte).toBitVec
      = divide crcPoly r.toBitVec (byteBits isMirrored byte) := by
  -- reflected or not, it is a byte whose bits are taken from the highest on
  obtain ⟨data, hdata, hbits⟩ : ∃ data : UInt8, (if isMirrored then reflect byte else byte) = data
      ∧ byteBits isMirrored byte = byteBits false data := by
    cases isMirrored with
    | false => exact ⟨byte, rfl, rfl⟩
    | true => exact ⟨reflect byte, rfl, (byteBits_reflect byte).symm⟩
  -- the byte that leaves is looked up, and the rest only moves
  have hlow : ∀ i < (byteBits false data).length,
      (r.toBitVec ^^^ leaving r).getMsbD i = false := fun i hi => by
    rw [length_byteBits] at hi
    rw [BitVec.getMsbD_xor, getMsbD_leaving, decide_eq_true hi, Bool.true_and, Bool.xor_self]
  have hsplit : r.toBitVec = leaving r ^^^ (r.toBitVec ^^^ leaving r) := by
    rw [BitVec.xor_comm r.toBitVec, ← BitVec.xor_assoc, BitVec.xor_self, BitVec.zero_xor]
  have hrest : (r.toBitVec ^^^ leaving r) <<< 8 = r.toBitVec <<< 8 := by
    refine BitVec.eq_of_getMsbD_eq fun i _ => ?_
    rw [BitVec.getMsbD_shiftLeft, BitVec.getMsbD_shiftLeft, BitVec.getMsbD_xor, getMsbD_leaving,
      decide_eq_false (by omega), Bool.false_and, Bool.xor_false]
  have hindex : (data ^^^ (r >>> 24).toUInt8).toBitVec.setWidth 32 <<< 24
      = leaving r ^^^ atTop 32 (byteBits false data) := by
    rw [atTop_byteBits, leaving, UInt8.toBitVec_xor, BitVec.setWidth_xor,
      BitVec.shiftLeft_xor_distrib, BitVec.xor_comm]
  rw [crcStep, hdata, hbits, divide_eq_lookup crcPoly (by simp) hsplit hlow, length_byteBits,
    UInt32.toBitVec_xor, toBitVec_crcTable, hindex, hrest]
  rfl

/-- **The loop divides the bits of the message.** -/
theorem toBitVec_crcFast (message : Bytes) (isMirrored : Bool) :
    (crcFast message isMirrored ^^^ 0xFFFFFFFF).toBitVec
      = divide crcPoly (BitVec.allOnes 32) (messageBits isMirrored message) := by
  have hloop : ∀ r : UInt32, (message.foldl (crcStep isMirrored) r).toBitVec
      = divide crcPoly r.toBitVec (messageBits isMirrored message) := by
    induction message with
    | nil => exact fun r => rfl
    | cons byte message ih =>
      intro r
      rw [List.foldl_cons, ih, toBitVec_crcStep, messageBits_cons, divide_append]
  rw [crcFast, UInt32.xor_assoc, UInt32.xor_self, UInt32.xor_zero, hloop]
  rfl

/-! ## The remainder

The register is full of ones at the beginning, and is complemented at the end.
Both are constants, so they cancel where two checksums are compared. -/

/-- **The polynomial of CRC-32.** -/
noncomputable def crcPolynomial : (ZMod 2)[X] :=
  X ^ 32 + X ^ 26 + X ^ 23 + X ^ 22 + X ^ 16 + X ^ 12 + X ^ 11 + X ^ 10 + X ^ 8 + X ^ 7 + X ^ 5
    + X ^ 4 + X ^ 2 + X + 1

theorem divisor_crcPoly : divisor crcPoly = crcPolynomial := by
  rw [divisor, crcPolynomial, poly, crcPoly]
  simp only [Finset.sum_range_succ, Finset.sum_range_zero]
  simp [coeffOf]
  ring

/-- **`crcFast` computes the remainder** of the message by the polynomial of
CRC-32, from a register of ones, and complements it.

The code goes through the message a byte at a time, with a table of 256 entries.
The table is the one in the source, and that its entries are remainders is
checked; what a step does to the register is then one multiplication by `X ^ 8`
in the ring of polynomials over the field of two elements. `isMirrored` turns
the bits of each byte around, and is a part of how the message is read and not
of the division. -/
theorem crcFast_remainder (message : Bytes) (isMirrored : Bool) :
    poly (crcFastEntries message isMirrored ^^^ 0xFFFFFFFF).toBitVec
      = (X ^ (8 * message.length) * poly (BitVec.allOnes 32)
          + X ^ 32 * bitsPoly (messageBits isMirrored message)) %ₘ crcPolynomial := by
  rw [crcFastEntries_eq, toBitVec_crcFast, poly_divide, divisor_crcPoly, length_messageBits]

/-! ## Bursts

The polynomial of CRC-32 has a constant term, so that a remainder tells apart
what differs within a window of 32 bits, wherever it lies in the message. -/

theorem byteBits_injective (isMirrored : Bool) : Function.Injective (byteBits isMirrored) := by
  intro byte byte' h
  have hbits := List.map_inj_left.mp h
  refine UInt8.toBitVec_inj.mp ?_
  cases isMirrored with
  | false => exact BitVec.eq_of_getMsbD_eq fun i hi => hbits i (List.mem_range.mpr hi)
  | true => exact BitVec.eq_of_getLsbD_eq fun i hi => hbits i (List.mem_range.mpr hi)

/-- A message is known from its bits. -/
theorem messageBits_injective (isMirrored : Bool) :
    Function.Injective (messageBits isMirrored) := by
  intro message message' h
  have hlength : message.length = message'.length := by
    have hbits := congrArg List.length h
    rw [length_messageBits, length_messageBits] at hbits
    omega
  induction message generalizing message' with
  | nil => exact (List.length_eq_zero_iff.mp hlength.symm).symm
  | cons byte message ih =>
    obtain ⟨byte', message', rfl⟩ := List.exists_cons_of_length_eq_add_one hlength.symm
    rw [messageBits_cons, messageBits_cons] at h
    obtain ⟨hbyte, hmessage⟩ := List.append_inj h (by simp)
    rw [byteBits_injective isMirrored hbyte, ih hmessage (Nat.succ_injective hlength)]

/-- **A burst of up to 32 bits changes the checksum.** -/
theorem crcFast_ne_of_burst {message damaged : Bytes} {isMirrored : Bool} {k : ℕ}
    (h : Burst k 32 (messageBits isMirrored message) (messageBits isMirrored damaged))
    (hne : message ≠ damaged) : crcFast message isMirrored ≠ crcFast damaged isMirrored := by
  intro hcrc
  have hregister : divide crcPoly (BitVec.allOnes 32) (messageBits isMirrored message)
      = divide crcPoly (BitVec.allOnes 32) (messageBits isMirrored damaged) := by
    rw [← toBitVec_crcFast, ← toBitVec_crcFast, hcrc]
  exact divide_ne_of_burst (by decide) (by decide) h
    (fun hbits => hne (messageBits_injective isMirrored hbits)) hregister

/-! ## The readers of the CCB

Both readers return what they have put together only behind a comparison of its
checksum with that of the header. What they put together may be anything, as the
driver may answer anything; but if it passes, it does not differ by a burst from
a CCB that the header is right about. -/

namespace CcbReaders

variable {io : PacketAnswers} {allocates : ℕ → Bool} {d : Adsd3500} {header : Bytes}

/-- What is returned has the checksum of the header. -/
def Checked (header content : Bytes) : Prop := ccbCrc header = crcFast content true

theorem of_returned {α : Type} {m : Transfer α} {Q : α → Adsd3500 → Prop} {E : Adsd3500 → Prop}
    (h : Leaves m d Q E) {a : α} (ha : a ∈ returned (m d)) : ∃ t, Q a t := by
  unfold Leaves at h
  unfold returned at ha
  split at ha
  · next hrun =>
    rw [hrun] at h
    cases ha
    exact ⟨_, h⟩
  · cases ha

theorem leaves_defined {α : Type} (x : Option α) (d : Adsd3500) :
    Leaves (defined x) d (fun a _ => x = some a) (fun _ => True) := by
  cases x with
  | none => exact True.intro
  | some a => exact rfl

/-- The header that is read is the one that is known. -/
theorem leaves_header (f : Exit → Exit) (hheader : headerRead io d = some header) :
    Leaves (mapExit f (readPayloadCmd io.toDriverAnswers 0x13 1 16)) d (fun a _ => a = header)
      (fun _ => True) := by
  unfold headerRead returned at hheader
  unfold Leaves mapExit
  cases hrun : readPayloadCmd io.toDriverAnswers 0x13 1 16 d with
  | ok a t =>
    rw [hrun] at hheader
    exact Option.some.inj hheader
  | error e t =>
    rw [hrun] at hheader
    cases hheader

/-- **The end of both readers**: the bytes that are checked are returned. -/
theorem leaves_checked {buffer : Buffer} {n m : ℕ} (hsame : n = m) (e : Exit) (d : Adsd3500) :
    Leaves (do
      let content ← defined (readFront n buffer)
      ensure (ccbCrc header = ~~~(crcFast content true ^^^ 0xFFFFFFFF)) e
      defined (readFront m buffer)) d (fun content _ => Checked header content)
      (fun _ => True) := by
  subst hsame
  refine (leaves_defined _ d).bind fun content t hcontent => ?_
  refine (Leaves.ensure_test _ e t).bind fun _ t' htest => ?_
  refine (leaves_defined _ t').mono (fun content' _ hcontent' => ?_) fun _ h => h
  rw [hcontent] at hcontent'
  cases hcontent'
  rw [Checked]
  rw [crc_test] at htest
  exact of_decide_eq_true htest

theorem readCurrentModuleCcbDirect_checked (hheader : headerRead io d = some header)
    (hlow : 4 < (ccbFileSize header).toNat) (hhigh : (ccbFileSize header).toNat < 2 ^ 31 + 4) :
    Leaves (readCurrentModuleCcbDirect io allocates) d
      (fun content _ => Checked header content) (fun _ => True) := by
  refine (leaves_header _ hheader).bind fun _ t₁ h => ?_
  subst h
  refine (Leaves.trivial _ t₁).bind fun _ t₂ _ => ?_
  refine (Leaves.trivial _ t₂).bind fun _ t₃ _ => ?_
  refine (Leaves.trivial _ t₃).bind fun _ t₄ _ => ?_
  refine (Leaves.trivial _ t₄).bind fun _ t₅ _ => ?_
  refine (Leaves.trivial _ t₅).bind fun _ t₆ _ => ?_
  exact leaves_checked (crcLength_eq hlow hhigh) _ t₆

theorem readAdsd3500Ccb_checked (hheader : headerRead io d = some header)
    (hlow : 4 < (ccbFileSize header).toNat) (hhigh : (ccbFileSize header).toNat < 2 ^ 31 + 4) :
    Leaves (readAdsd3500Ccb io allocates) d
      (fun content _ => Checked header content) (fun _ => True) := by
  have hsize : (ccbFileSize header - 4).toNat = (ccbFileSize header).toNat - 4 :=
    UInt32.toNat_sub_of_le _ _ (UInt32.le_iff_toNat_le.mpr hlow.le)
  have hread := leaves_header id hheader
  rw [mapExit_id] at hread
  refine hread.bind fun _ t₁ h => ?_
  subst h
  refine (Leaves.trivial _ t₁).bind fun _ t₂ _ => ?_
  refine (Leaves.trivial _ t₂).bind fun _ t₃ _ => ?_
  refine (Leaves.trivial _ t₃).bind fun _ t₄ _ => ?_
  refine (Leaves.trivial _ t₄).bind fun _ t₅ _ => ?_
  refine (Leaves.trivial _ t₅).bind fun _ t₆ _ => ?_
  exact leaves_checked ((crcLength_eq hlow hhigh).trans hsize.symm) _ t₆

/-- **No burst gets past the readers.** Whatever the driver answers: what either
returns is not a CCB that a burst of up to 32 bits has damaged, if the checksum
of the header is that of the CCB. -/
theorem readers_refuse_burst (hheader : headerRead io d = some header)
    (hlow : 4 < (ccbFileSize header).toNat) (hhigh : (ccbFileSize header).toNat < 2 ^ 31 + 4)
    {ccb content : Bytes} (hccb : ccbCrc header = crcFast ccb true) {k : ℕ}
    (hburst : Burst k 32 (messageBits true ccb) (messageBits true content))
    (hreturned : content ∈ returned (readCurrentModuleCcbDirect io allocates d)
      ∨ content ∈ returned (readAdsd3500Ccb io allocates d)) : content = ccb := by
  have hchecked : Checked header content := by
    rcases hreturned with hdirect | hsdk
    · obtain ⟨_, h⟩ := of_returned (readCurrentModuleCcbDirect_checked hheader hlow hhigh) hdirect
      exact h
    · obtain ⟨_, h⟩ := of_returned (readAdsd3500Ccb_checked hheader hlow hhigh) hsdk
      exact h
  by_contra hne
  exact crcFast_ne_of_burst hburst (Ne.symm hne) (hccb.symm.trans hchecked)

/-- A header whose checksum is that of one byte. -/
def byteHeader : Bytes := [0, 16, 0, 0, 5, 0, 0, 0, 0, 0, 0, 0, 0x4B, 0x40, 0xF7, 0xB1]

/-- The driver that gives it, and after it a byte in which a bit has changed. -/
def damagedAnswers : PacketAnswers where
  sets _ _ := true
  gets n := some (if n = 3 then headerPacket byteHeader
    else [0, 0, 0, 1] ++ List.replicate (ctrlPacketSize - 4) 0)
  whole n bytes h := by
    cases h
    split
    · rw [headerPacket, List.length_append, List.length_append, List.length_replicate]
      rfl
    · rw [List.length_append, List.length_replicate]
      rfl

/-- A bit of a CCB of one byte is turned over on its way. The one reader does
not return it. -/
theorem readers_refuse_damagedAnswers :
    [1] ∉ returned (readCurrentModuleCcbDirect damagedAnswers (fun _ => true) {}) := by
  intro h
  have hburst : Burst 0 32 (messageBits true [0]) (messageBits true [1]) := by
    refine ⟨rfl, fun i hi => ⟨Nat.zero_le i, ?_⟩⟩
    by_contra hout
    have hbits : ∀ byte, (messageBits true [byte])[i]? = none := fun byte =>
      List.getElem?_eq_none (by simp; omega)
    exact hi (by rw [hbits, hbits])
  have hheader : headerRead damagedAnswers {} = some byteHeader := by decide +kernel
  exact absurd (readers_refuse_burst hheader (by decide) (by decide) (by decide +kernel) hburst
    (Or.inl h)) (by decide)

end CcbReaders
