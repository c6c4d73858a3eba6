import IGCLWrapper.CLayout
import Mathlib.Algebra.Order.Ring.Nat

/-! The structures of `igcl_api.h` that the helpers and the samples fill in, as C types. Enumerations
and flags take four bytes. -/
namespace IGCL

open CLayout

/-- Build target: bytes in a pointer and bits in `size_t`. -/
structure Target where
  pointerBytes : Nat
  sizeBits : Nat
  deriving DecidableEq, Repr

def Target.x64 : Target := ⟨8,64⟩
def Target.win32 : Target := ⟨4,32⟩

abbrev uint8 : CType := .scalar 0
abbrev uint16 : CType := .scalar 1
abbrev uint32 : CType := .scalar 2
abbrev uint64 : CType := .scalar 3

def ctlApplicationId : CType := .struct [uint32,uint16,uint16,.array uint8 8]

def ctlInitArgs : CType := .struct [uint32,uint8,uint32,uint32,uint32,ctlApplicationId]

def ctlRevisionDatatype : CType := .struct [uint8,uint8,uint8]

def ctlDisplayTiming : CType :=
  .struct [uint32,uint8,uint64,uint32,uint32,uint32,uint32,uint32,uint32,uint32,uint32,uint32,uint32,
    uint8]

def ctlFirmwareVersion : CType := .struct [uint64,uint64,uint64]

def ctlAdapterBdf : CType := .struct [uint8,uint8,uint8]

def ctlI2cAccessArgs : CType :=
  .struct [uint32,uint8,uint32,uint32,uint32,uint32,uint32,uint64,.array uint8 0x0080]

def ctlAuxAccessArgs : CType :=
  .struct [uint32,uint8,uint32,uint32,uint32,uint64,uint32,uint32,.array uint8 132]

namespace Target

variable (t : Target)

def pointer : CType := .scalar (Nat.log2 t.pointerBytes)

def ctlGenericVoidDatatype : CType := .struct [t.pointer,uint32]

def ctlOsDisplayEncoderIdentifier : CType := .union [uint32,t.ctlGenericVoidDatatype]

def ctlDisplayProperties : CType :=
  .struct [uint32,uint8,t.ctlOsDisplayEncoderIdentifier,uint32,uint32,uint32,ctlRevisionDatatype,
    uint32,uint32,uint32,uint32,uint32,uint32,uint32,ctlDisplayTiming,.array uint32 16]

def ctlDeviceAdapterProperties : CType :=
  .struct [uint32,uint8,t.pointer,uint32,uint32,uint32,uint64,ctlFirmwareVersion,uint32,uint32,uint32,
    uint32,uint32,uint32,.array uint8 100,uint32,uint32,uint16,uint16,ctlAdapterBdf,uint32,
    .array uint8 108]

def ctlDceArgs : CType :=
  .struct [uint32,uint8,uint8,uint32,uint64,uint32,uint8,uint8,t.pointer]

def ctlWaitPropertyChangeArgs : CType :=
  .struct [uint32,uint8,uint32,uint32,uint32,t.pointer,uint64]

def ctlPanelDescriptorAccessArgs : CType := .struct [uint32,uint8,uint32,uint32,uint32,t.pointer]

def ctlEdidManagementArgs : CType := .struct [uint32,uint8,uint32,uint32,uint32,t.pointer,uint32]

end Target

example : Target.x64.ctlDisplayProperties.size = 200 := by decide
example : Target.win32.ctlDisplayProperties.size = 192 := by decide
example : Target.x64.ctlDeviceAdapterProperties.size = 320 := by decide

end IGCL
