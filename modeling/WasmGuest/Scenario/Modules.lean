/-!
# The shipped modules

The modules that the scenarios run, in the text format.
-/

namespace WasmGuest.Scenario

/-- The sum of two integers. -/
def addText : String := r#"(module
  (func (export "add") (param $a i32) (param $b i32) (result i32)
    local.get $a
    local.get $b
    i32.add))
"#

/-- Whether two squares add up to a third. -/
def pythagText : String := r#"(module
  ;; a*a + b*b == c*c, as 0 or 1
  (func (export "is_pythag") (param $a i32) (param $b i32) (param $c i32) (result i32)
    local.get $a
    local.get $a
    i32.mul
    local.get $b
    local.get $b
    i32.mul
    i32.add
    local.get $c
    local.get $c
    i32.mul
    i32.eq))
"#

/-- The square of an integer. -/
def squareText : String := r#"(module
  (func (export "square") (param $n i32) (result i32)
    local.get $n
    local.get $n
    i32.mul))
"#

/-- Fibonacci numbers, by recursion and by a loop. -/
def fibonacciText : String := r#"(module
  (func $fibrec (export "fibrec") (param $n i32) (result i32)
    local.get $n
    i32.const 1
    i32.le_s
    if (result i32)
      local.get $n
    else
      local.get $n
      i32.const 2
      i32.sub
      call $fibrec
      local.get $n
      i32.const 1
      i32.sub
      call $fibrec
      i32.add
    end)

  ;; a = 1, b = 0; n - 1 times: (a, b) = (a + b, a)
  (func (export "fibiter") (param $n i32) (result i32)
    (local $a i32)
    (local $b i32)
    (local $t i32)
    (local $i i32)
    i32.const 1
    local.set $a
    i32.const 1
    local.set $i
    (block $done
      (loop $step
        local.get $i
        local.get $n
        i32.ge_s
        br_if $done
        local.get $a
        local.set $t
        local.get $a
        local.get $b
        i32.add
        local.set $a
        local.get $t
        local.set $b
        local.get $i
        i32.const 1
        i32.add
        local.set $i
        br $step))
    local.get $a))
"#

/-- A list back to front, with a bump allocator for the blocks that lists pass through. -/
def reverseText : String := r#"(module
  (memory (export "memory") 1)
  (global $heap (mut i32) (i32.const 1024))

  ;; bump allocator, blocks are 4 byte aligned and never reused
  (func $alloc (export "alloc") (param $size i32) (result i32)
    (local $ptr i32)
    global.get $heap
    local.set $ptr
    global.get $heap
    local.get $size
    i32.const 3
    i32.add
    i32.const -4
    i32.and
    i32.add
    global.set $heap
    (block $fits
      global.get $heap
      memory.size
      i32.const 16
      i32.shl
      i32.le_u
      br_if $fits
      global.get $heap
      memory.size
      i32.const 16
      i32.shl
      i32.sub
      i32.const 65535
      i32.add
      i32.const 16
      i32.shr_u
      memory.grow
      i32.const -1
      i32.ne
      br_if $fits
      unreachable)
    local.get $ptr)

  (func (export "free") (param $ptr i32) (param $size i32))

  ;; returns a new block holding the items of (ptr, len) back to front
  (func (export "reverse") (param $ptr i32) (param $len i32) (result i32 i32)
    (local $out i32)
    (local $i i32)
    local.get $len
    i32.const 4
    i32.mul
    call $alloc
    local.set $out
    (block $done
      (loop $copy
        local.get $i
        local.get $len
        i32.ge_s
        br_if $done
        local.get $out
        local.get $len
        i32.const 1
        i32.sub
        local.get $i
        i32.sub
        i32.const 4
        i32.mul
        i32.add
        local.get $ptr
        local.get $i
        i32.const 4
        i32.mul
        i32.add
        i32.load
        i32.store
        local.get $i
        i32.const 1
        i32.add
        local.set $i
        br $copy))
    local.get $out
    local.get $len))
"#

/-- The sum of the first squares, by a loop. -/
def sumOfSquaresText : String := r#"(module
  (func (export "sum_of_squares") (param $n i32) (result i32)
    (local $sum i32)
    (local $i i32)
    i32.const 1
    local.set $i
    (block $done
      (loop $step
        local.get $i
        local.get $n
        i32.gt_s
        br_if $done
        local.get $sum
        local.get $i
        local.get $i
        i32.mul
        i32.add
        local.set $sum
        local.get $i
        i32.const 1
        i32.add
        local.set $i
        br $step))
    local.get $sum))
"#

end WasmGuest.Scenario
