import TofNet.Dealias
import TofNet.PixelLayout

/-!
# The TOFI library

The library that turns a raw frame into depth, as the viewer sees it: a
configuration is made of files and dealias data, and a context of the
configuration's calibration. Two libraries can be linked. The one whose source
is at hand, `depth-compute-opensource`, is `openSource`; its `InitTofiConfig`
makes a configuration without a calibration, so that only the ISP of the
ADSD3500 works with it.

What the viewer does with the library is call it and look at whether it has
failed. So the library is a parameter with three types of its own, for a
configuration, a calibration and a context, of which nothing is asked; the open
one is the case in which they are known.
-/

/-- **The library.** A call that fails returns a null pointer or a status
other than 0, and some fail with an exception. `allocates` says for how many
pixels the viewer's own output buffers can be allocated. -/
structure TofiLibrary (κ χ γ : Type) where
  /-- The generic way. -/
  initTofiConfig (ccb cfg : Option Bytes) (ini : Bytes) (mode : UInt16) : Option κ × UInt32
  /-- The ISP's way, which may end with an exception. -/
  initTofiConfigIsp (ini : Bytes) (mode : UInt8) (slots : DealiasSlots) :
    Option (Option κ × UInt32)
  /-- `p_tofi_cal_config`. -/
  calConfig : κ → Option χ
  /-- A context, from the calibration. -/
  initTofiCompute : χ → Option γ × UInt32
  /-- There is memory for the viewer's own buffers. -/
  allocates : ℕ → Bool

/-! ## The dealias data of a mode

The library reads a structure of rows and columns from a slot, whatever bytes
were received for it. -/

/-- A slot's structure; a slot is zeroed at the start. -/
def DealiasSlots.get (slots : DealiasSlots) (mode : UInt8) : Bytes :=
  (slots mode).getD (List.replicate tofiXYZDealiasDataSize 0)

/-- `n_rows` and `n_cols` of the structure, as the 32 bits they are. -/
def dealiasRows (dealias : Bytes) : UInt32 := get32 0 dealias

def dealiasCols (dealias : Bytes) : UInt32 := get32 4 dealias

/-! ## The open library

Its calls are those of the sources, as far as the sizes of the tables and the
widths of the pixel parts depend on them. -/

namespace OpenSource

/-- The copy of the dealias data that `InitTofiConfig_isp` makes, with the bit
widths it puts into `Freq[0]`. -/
structure Cal where
  dealias : Bytes
  bits : ℕ
  deriving DecidableEq

/-- `TofiConfig`. -/
structure Config where
  cal : Option Cal
  deriving DecidableEq

/-- `TofiComputeContext` with its `PrivateData`: the calibration, the widths
read back from it, and the size of each of the three tables. -/
structure Context where
  cal : Cal
  widths : PixelWidths
  tables : ℕ
  deriving DecidableEq

/-- **`depth-compute-opensource`.** `generates` says for which dealias data
`GenerateXYZTables` returns successfully. -/
def library (generates : Bytes → Bool) (allocates : ℕ → Bool) :
    TofiLibrary Config Cal Context where
  initTofiConfig _ _ _ _ := (some ⟨none⟩, 0)
  initTofiConfigIsp ini mode slots :=
    (initTofiConfigIsp ini).map (fun bits => (some ⟨some ⟨slots.get mode, bits⟩⟩, 0))
  calConfig config := config.cal
  initTofiCompute cal :=
    if generates cal.dealias = true then
      (some {
        cal := cal
        widths := unpackBits cal.bits
        tables := (dealiasRows cal.dealias * dealiasCols cal.dealias).toNat }, 0)
    else (none, 0)
  allocates := allocates

end OpenSource
