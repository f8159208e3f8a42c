import ExScript.Table
import ExScript.Value

set_option autoImplicit false

namespace ExScript

abbrev Bindings := Table String Value

abbrev FrameId := Nat

structure Heap where
  frames : Array Bindings

namespace Heap

def empty : Heap := ⟨#[]⟩

def read (h : Heap) (id : FrameId) : Bindings := h.frames[id]?.getD .empty

def write (h : Heap) (id : FrameId) (frame : Bindings) : Heap := ⟨h.frames.setIfInBounds id frame⟩

def alloc (h : Heap) : FrameId × Heap := (h.frames.size, ⟨h.frames.push .empty⟩)

@[simp]
theorem size_write (h : Heap) (id : FrameId) (frame : Bindings) : (h.write id frame).frames.size = h.frames.size := by
  simp [write]

@[simp]
theorem size_alloc (h : Heap) : h.alloc.2.frames.size = h.frames.size + 1 := by simp [alloc]

@[simp]
theorem read_write_self (h : Heap) {id : FrameId} (frame : Bindings) (inside : id < h.frames.size) :
    (h.write id frame).read id = frame := by
  simp [read, write, inside]

@[simp]
theorem read_write_ne (h : Heap) {id other : FrameId} (frame : Bindings) (different : other ≠ id) :
    (h.write id frame).read other = h.read other := by
  simp [read, write, Ne.symm different]

@[simp]
theorem read_alloc_old (h : Heap) {id : FrameId} (old : id < h.frames.size) :
    h.alloc.2.read id = h.read id := by
  simp [read, alloc, Array.getElem?_push, Nat.ne_of_lt old]

@[simp]
theorem read_alloc_new (h : Heap) : h.alloc.2.read h.frames.size = .empty := by
  simp [read, alloc]

end Heap

end ExScript
