import TofNet.Protocol

/-!
# The frame codec

`tof_net/zstd_codec.cpp`: the two wrappers around `ZSTD_compress` and
`ZSTD_decompress`. The library itself is not part of the repository, so it is
a parameter `Zstd`, and what the wrappers' callers rely on is stated as laws
of it: the output of a compression fits in the bound it was given room for,
decompression inverts compression, and a frame that has been cut short is not
a frame.

The wrappers add two things to the library: the room they give it, and a text
for its error. That a decompression has the size it was asked for is one of the
checks that they make, so that a caller need not make it again.
-/

/-- **The compression library.** Both functions take the size of the output
buffer, and return either the bytes they wrote to it or the name of their
error. -/
structure Zstd where
  /-- `ZSTD_compress`, with the level and the size of the buffer. -/
  compress : Int → ℕ → Bytes → Except String Bytes
  /-- `ZSTD_decompress`, with the size of the buffer. -/
  decompress : ℕ → Bytes → Except String Bytes

namespace Zstd

/-- `ZSTD_compressBound`, as the library documents it. -/
def compressBound (size : ℕ) : ℕ :=
  size + size / 256 + if size < 131072 then (131072 - size) / 2048 else 0

/-- `ZSTD_compress` into a buffer of `ZSTD_compressBound` bytes writes no
more than that. -/
def FitsBound (z : Zstd) : Prop :=
  ∀ level data out, z.compress level (compressBound data.length) data = .ok out →
    out.length ≤ compressBound data.length

/-- `ZSTD_decompress` inverts `ZSTD_compress`. -/
def Inverts (z : Zstd) : Prop :=
  ∀ level data out, z.compress level (compressBound data.length) data = .ok out →
    z.decompress data.length out = .ok data

/-- `ZSTD_decompress` wants the exact size of the frame: fewer of its bytes
are an error. -/
def RejectsPrefix (z : Zstd) : Prop :=
  ∀ level data out k cap, z.compress level (compressBound data.length) data = .ok out →
    0 < k → k < out.length → ∃ e, z.decompress cap (out.take k) = .error e

/-- The bound of a size that fits 32 bits is less than twice as large. -/
theorem compressBound_lt {size : ℕ} (h : size < 2 ^ 32) : compressBound size < 2 * 2 ^ 32 := by
  unfold compressBound
  split <;> omega

end Zstd

/-- `zstd_compress`. -/
def zstdCompress (z : Zstd) (data : Bytes) (level : Int) : Except String Bytes :=
  match z.compress level (Zstd.compressBound data.length) data with
  | .error e => .error ("ZSTD_compress failed: " ++ e)
  | .ok out => .ok out

/-- `zstd_decompress`. -/
def zstdDecompress (z : Zstd) (data : Bytes) (rawSize : ℕ) : Except String Bytes :=
  match z.decompress rawSize data with
  | .error e => .error ("ZSTD_decompress failed: " ++ e)
  | .ok out => if out.length ≠ rawSize then .error "ZSTD_decompress size mismatch" else .ok out

variable {z : Zstd} {data out : Bytes} {level : Int} {rawSize : ℕ}

/-- A compression that succeeds is one of the library's. -/
theorem compress_of_zstdCompress (h : zstdCompress z data level = .ok out) :
    z.compress level (Zstd.compressBound data.length) data = .ok out := by
  unfold zstdCompress at h
  split at h
  · cases h
  · next heq => rw [heq, Except.ok.inj h]

/-- **What `zstd_compress` returns, `zstd_decompress` reads back.** -/
theorem zstdDecompress_of_compress (hinv : z.Inverts) (h : zstdCompress z data level = .ok out) :
    zstdDecompress z out data.length = .ok data := by
  rw [zstdDecompress, hinv level data out (compress_of_zstdCompress h)]
  exact if_neg (not_not.mpr rfl)

/-- A decompression that succeeds has the size it was asked for. -/
theorem length_of_zstdDecompress (h : zstdDecompress z data rawSize = .ok out) :
    out.length = rawSize := by
  unfold zstdDecompress at h
  split at h
  · cases h
  · split at h
    · cases h
    · next hlen =>
      rw [← Except.ok.inj h]
      exact not_not.mp hlen

/-- A decompression that succeeds is one of the library's. -/
theorem decompress_of_zstdDecompress (h : zstdDecompress z data rawSize = .ok out) :
    z.decompress rawSize data = .ok out := by
  unfold zstdDecompress at h
  split at h
  · cases h
  · next out' heq =>
    split at h
    · cases h
    · rw [heq, Except.ok.inj h]
