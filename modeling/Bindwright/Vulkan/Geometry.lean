import Bindwright.Memory.Record

namespace Bindwright.Vulkan

open Memory

structure Extent2d where
  width : UInt32
  height : UInt32
  deriving DecidableEq, Repr

namespace Extent2d

def widthSlot : Slot UInt32 := .scalar _ 0

def heightSlot : Slot UInt32 := .scalar _ 4

instance : Record Extent2d where
  nativeName := "VkExtent2D"
  layout := ⟨8, 4⟩
  parts := [.ofSlot "width" widthSlot width, .ofSlot "height" heightSlot height]
  read s := return ⟨← widthSlot.read s, ← heightSlot.read s⟩

end Extent2d

structure Extent3d where
  width : UInt32
  height : UInt32
  depth : UInt32
  deriving DecidableEq, Repr

namespace Extent3d

def widthSlot : Slot UInt32 := .scalar _ 0

def heightSlot : Slot UInt32 := .scalar _ 4

def depthSlot : Slot UInt32 := .scalar _ 8

instance : Record Extent3d where
  nativeName := "VkExtent3D"
  layout := ⟨12, 4⟩
  parts := [.ofSlot "width" widthSlot width, .ofSlot "height" heightSlot height,
    .ofSlot "depth" depthSlot depth]
  read s := return ⟨← widthSlot.read s, ← heightSlot.read s, ← depthSlot.read s⟩

end Extent3d

structure Offset2d where
  x : Int32
  y : Int32
  deriving DecidableEq, Repr

namespace Offset2d

def xSlot : Slot Int32 := .scalar _ 0

def ySlot : Slot Int32 := .scalar _ 4

instance : Record Offset2d where
  nativeName := "VkOffset2D"
  layout := ⟨8, 4⟩
  parts := [.ofSlot "x" xSlot x, .ofSlot "y" ySlot y]
  read s := return ⟨← xSlot.read s, ← ySlot.read s⟩

end Offset2d

structure Rect2d where
  offset : Offset2d
  extent : Extent2d
  deriving DecidableEq, Repr

namespace Rect2d

def offsetSlot : Slot Offset2d := .nested _ 0 8

def extentSlot : Slot Extent2d := .nested _ 8 8

instance : Record Rect2d where
  nativeName := "VkRect2D"
  layout := ⟨16, 4⟩
  parts := [.ofSlot "offset" offsetSlot offset, .ofSlot "extent" extentSlot extent]
  read s := return ⟨← offsetSlot.read s, ← extentSlot.read s⟩

end Rect2d
end Bindwright.Vulkan
