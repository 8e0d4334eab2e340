import Mathlib.Algebra.Group.Int.Defs
import Mathlib.Algebra.Group.Nat.Defs
import Mathlib.Data.Rat.Defs

/-! The domain records shared by the daemon, the media parent and the media
child (`types.hpp`). Strings of the source are byte strings and stay so here:
nothing in the program depends on a text encoding. -/
namespace WhRepeater

/-- A `std::string` or a span of `std::byte`. -/
abbrev Bytes := List UInt8

/-- The bytes of a literal of the source. -/
def bytes (literal : String) : Bytes := literal.toUTF8.data.toList

theorem bytes_injective : Function.Injective bytes := by
  intro first second same
  have data : first.toUTF8.data = second.toUTF8.data := Array.toList_inj.mp same
  exact String.toByteArray_inj.mp (ByteArray.ext data)

@[simp] theorem bytes_inj : bytes first = bytes second ↔ first = second :=
  bytes_injective.eq_iff

/-- A `steady_clock` time point in nanoseconds; the default time point is `0`. -/
abbrev Time := Int

/-- A duration in nanoseconds. -/
abbrev Duration := Int

def seconds (count : Int) : Duration := count * 1000000000

def milliseconds (count : Int) : Duration := count * 1000000

inductive Antenna where
  | top | bottom
  deriving Repr, DecidableEq

inductive DvbSystem where
  | dvbs | dvbs2 | unknown
  deriving Repr, DecidableEq

inductive ReceiverState where
  | idle | searching | foundHeader | lockedDvbs | lockedDvbs2 | lost | timeout | fault
  deriving Repr, DecidableEq

structure ScanTarget where
  frequencyKhz : UInt32 := 0
  symbolRateKs : UInt32 := 0
  localOscillatorKhz : UInt32 := 0
  antenna : Antenna := .top
  system : DvbSystem := .unknown
  fec : Bytes := bytes "auto"
  label : Bytes := []
  deriving Repr, DecidableEq

/-- A receiver number. The source wraps an `int`. -/
structure ReceiverId where
  value : Int32 := 0
  deriving Repr, DecidableEq

/-- The bits of a `double`. Statuses only carry and compare them. -/
abbrev DoubleBits := UInt64

structure ReceiverStatus where
  receiver : ReceiverId := {}
  state : ReceiverState := .idle
  target : Option ScanTarget := none
  merDb : Option DoubleBits := none
  dNumberDb : Option DoubleBits := none
  serviceName : Option Bytes := none
  modulation : Option Bytes := none
  transportPackets : UInt64 := 0
  continuityErrors : UInt64 := 0
  updatedAt : Time := 0
  deriving Repr, DecidableEq

structure ActiveInput where
  receiver : ReceiverId
  target : ScanTarget
  status : ReceiverStatus
  deriving Repr, DecidableEq

/-- A `std::array` of 188 bytes. -/
abbrev TransportPacket := { packet : Bytes // packet.length = 188 }

end WhRepeater
