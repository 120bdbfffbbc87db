import WasmGuest.Proofs.Instance.Session
import WasmGuest.Proofs.Scenario.Reverse.Exchange

/-!
# Reversing a list

An instance of the reversing module may have been through any invocations, with
any of them failing halfway: its heap may end anywhere.  Reversing a list then
fails or gives the list back to front, since the exchange is right on every store
(`reversal_cases`).  On a new instance without metering it does not fail as long
as the list fits twice (`reversal_of_roomy`).  `reversal_reverses_or_fails` puts both
together with reading the module from its text.
-/

namespace WasmGuest

open Wasm (pageSize)
open Machine (Code Store)

namespace Scenario

open Reverse

/-- Pass a list to `reverse` and take one back. -/
def reversal (xs : List Int32) (label : Option String) (separator : Separator) : Invocation where
  target := "reverse"
  args := [.list xs]
  returns := .list
  label := label
  separator := separator

section

variable {a : Instance}

theorem funcs_reverse {config : Config} (h : a.prepared = ⟨config, reverseModule⟩) :
    a.prepared.code.funcs = #[alloc, free, reverse] := by
  rw [h]
  rfl

theorem exchanges_reversal {config : Config} (h : a.prepared = ⟨config, reverseModule⟩)
    (xs : List Int32) (label : Option String) (separator : Separator) :
    a.Exchanges (reversal xs label separator) 2 ⟨0, 0, some 1⟩ := by
  refine ⟨⟨⟨[.i32, .i32], [.i32, .i32]⟩, ?_, ?_⟩, ?_, ?_⟩
  · rw [h]
    rfl
  · rfl
  · rfl
  · rw [h]
    rfl

/-- The guest of every exchange allocates and releases with the first two functions. -/
theorem guest_of_exchanges {config : Config} (h : a.prepared = ⟨config, reverseModule⟩)
    {i : Invocation} {f : Nat} {guest : Guest} (hexchanges : a.Exchanges i f guest) :
    guest = ⟨0, 0, some 1⟩ := by
  have hresolved := hexchanges.resolved
  rw [h] at hresolved
  cases hresolved
  rfl

/-- On any store a reversal fails, or gives the list back to front. -/
theorem reversal_cases {config : Config} (h : a.prepared = ⟨config, reverseModule⟩)
    (xs : List Int32) (label : Option String) (separator : Separator) :
    (∃ e, (a.invoke (reversal xs label separator)).result = .error (.invocation "reverse" e)) ∨
      ∃ fuel, (a.invoke (reversal xs label separator)).result =
        .ok ⟨some (.list xs.reverse), fuel⟩ := by
  obtain ⟨hresult, -, -⟩ := (exchanges_reversal h xs label separator).invoke_eq
  have hc := funcs_reverse h
  rw [hresult]
  cases hcall : (callWithMemory a.prepared.code ⟨0, 0, some 1⟩ 2 (reversal xs label separator)
      a.store.refuel).1 with
  | error e => exact .inl ⟨e, rfl⟩
  | ok outcome =>
    right
    obtain ⟨fuel, rfl⟩ := @value_exchange _ ⟨0, 0, some 1⟩ xs a.store.refuel hc ⟨rfl, rfl⟩
      (reversal xs label separator) rfl rfl outcome (result_exchange_of_callWithMemory hcall)
    exact ⟨fuel, rfl⟩

/-- Without metering, under a limit of whole pages below two gibibytes, a list is reversed if there
is room for it twice behind the heap. -/
theorem reversal_of_roomy {config : Config} (h : a.prepared = ⟨config, reverseModule⟩)
    {pages : Nat} {heap : UInt32} (hfuel : config.fuel = none)
    (hmax : config.maxMemory.toNat = pages * pageSize) (hpages : pages < 32768)
    (hroomy : Roomy pages a.store) (hheap : a.store.globals[0]? = some (.i32 heap))
    (hpos : 0 < heap.toNat) {xs : List Int32}
    (hfit : heap.toNat + xs.length * 8 ≤ pages * pageSize) (label : Option String)
    (separator : Separator) : (a.invoke (reversal xs label separator)).result =
      .ok ⟨some (.list xs.reverse), none⟩ := by
  obtain ⟨hresult, -, -⟩ := (exchanges_reversal h xs label separator).invoke_eq
  have hc : Unmetered a.prepared.code pages := by
    rw [h]
    exact ⟨rfl, congrArg (Option.map UInt64.toNat) hfuel, hmax, hpages⟩
  have hexchange := @exchange_of_roomy _ ⟨0, 0, some 1⟩ xs a.store.refuel pages heap hc
    ⟨rfl, rfl⟩ hroomy hheap hpos hfit (reversal xs label separator) rfl rfl
  have hreleased (bs : List Block) (st : Store) :
      (Guest.releaseAll a.prepared.code ⟨0, 0, some 1⟩ bs st).result = .ok () :=
    releaseAll_ok hc rfl bs st
  rw [hresult, callWithMemory, hexchange]
  simp only [hreleased]
  rfl

end

/-! ## A new instance -/

/-- The store of a new instance has one page, and its heap is empty. -/
def initial : Store :=
  ⟨⟨[.ofPages 1 none], #[.i32 1024], [], [], []⟩, 0, 0⟩

theorem instantiate_reverseModule {config : Config}
    (h : pageSize ≤ config.maxMemory.toNat) :
    Prepared.instantiate ⟨config, reverseModule⟩ = .ok ⟨⟨config, reverseModule⟩, initial⟩ := by
  have hmemory : Machine.initialMemory config.maxMemory.toNat ⟨1, none⟩ =
      .ok (.ofPages 1 none) := by
    rw [Machine.initialMemory, if_pos]
    rw [Nat.one_mul]
    exact h
  have hmemories : ([⟨⟨1, none⟩, .w32⟩] : List Wasm.MemoryType).mapM
      (fun t => Machine.initialMemory config.maxMemory.toNat t.limits) = .ok [.ofPages 1 none] := by
    rw [List.mapM_cons, hmemory]
    rfl
  have hinitial : Machine.initialStore reverseModule config.maxMemory.toNat = .ok initial := by
    simp only [Machine.initialStore, reverseModule, hmemories]
    rfl
  have hstore : Machine.instantiate reverseModule config.limit config.maxMemory.toNat =
      .ok initial := by
    simp only [Machine.instantiate, hinitial]
    rfl
  have himports : Prepared.imports ⟨config, reverseModule⟩ = [] := rfl
  simp only [Prepared.instantiate, himports, hstore]

theorem roomy_initial : Roomy 1024 initial := by
  refine ⟨_, rfl, rfl, ?_⟩
  rw [Machine.Memory.ofPages, Array.size_replicate]
  decide

theorem memorySize_initial : initial.memorySize 0 = pageSize := by
  show (Array.replicate 1 _).size * pageSize = pageSize
  rw [Array.size_replicate, Nat.one_mul]

/-- The text of the reversing module is prepared, and its instances never give a wrong list,
whatever was invoked on them before.  A new one without metering under the default limit reverses
every list that fits twice. -/
theorem reversal_reverses_or_fails :
    (∀ config : Config, ∃ p, Prepared.ofImage config (.ofText reverseText) = .ok p ∧
      ∀ a, p.instantiate = .ok a → ∀ earlier xs label separator,
        (∃ e, ((a.afterAll earlier).invoke (reversal xs label separator)).result =
          .error (.invocation "reverse" e)) ∨
        ∃ fuel, ((a.afterAll earlier).invoke (reversal xs label separator)).result =
          .ok ⟨some (.list xs.reverse), fuel⟩) ∧
    ∃ p a, Prepared.ofImage {} (.ofText reverseText) = .ok p ∧ p.instantiate = .ok a ∧
      ∀ xs label separator, 1024 + 8 * xs.length ≤ 67108864 →
        (a.invoke (reversal xs label separator)).result =
          .ok ⟨some (.list xs.reverse), none⟩ := by
  constructor
  · intro config
    refine ⟨_, ofImage_reverseText config, ?_⟩
    intro a hinstantiate earlier xs label separator
    have hprepared := (a.prepared_afterAll earlier).trans
      (Prepared.prepared_of_instantiate hinstantiate)
    exact reversal_cases hprepared xs label separator
  · refine ⟨_, _, ofImage_reverseText {}, instantiate_reverseModule (by decide), ?_⟩
    intro xs label separator hfit
    have hpages : (67108864 : Nat) = 1024 * pageSize := rfl
    exact @reversal_of_roomy ⟨⟨{}, reverseModule⟩, initial⟩ {} rfl 1024 1024 rfl hpages (by decide)
      roomy_initial rfl (by decide) xs (by show 1024 + _ ≤ _; omega) label separator

/-- Ask for a block of this size. -/
def allocCall (size : Int32) : Invocation where
  target := "alloc"
  args := [.i32 size]

/-- A new instance reverses a list.  A block of negative size moves the heap back, and a list is
still reversed; a smaller size takes the heap out of the memory, and then reversing fails. -/
theorem reversal_after_moved_heap : ∃ p a, Prepared.ofImage {} (.ofText reverseText) = .ok p ∧
    p.instantiate = .ok a ∧
    (a.invoke (reversal [1, -2, 3] none .eq)).result = .ok ⟨some (.list [3, -2, 1]), none⟩ ∧
    (∃ fuel, ((a.afterAll [allocCall (-1020)]).invoke (reversal [7, -8] none .eq)).result =
      .ok ⟨some (.list [-8, 7]), fuel⟩) ∧
    ∃ e, ((a.afterAll [allocCall (-2000)]).invoke (reversal [7, -8] none .eq)).result =
      .error (.invocation "reverse" e) := by
  obtain ⟨hsafe, p, a, hp, ha, hroom⟩ := reversal_reverses_or_fails
  obtain ⟨p', hp', hsafe⟩ := hsafe {}
  cases hp.symm.trans hp'
  cases hp.symm.trans (ofImage_reverseText {})
  cases ha.symm.trans (instantiate_reverseModule (by decide))
  refine ⟨_, _, hp, ha, hroom [1, -2, 3] none .eq (by decide), ?_, ?_⟩
  · rcases hsafe _ ha [allocCall (-1020)] [7, -8] none .eq with ⟨e, hfails⟩ | hreversed
    · exact absurd hfails (by intro h; cases h)
    · exact hreversed
  · rcases hsafe _ ha [allocCall (-2000)] [7, -8] none .eq with hfails | ⟨fuel, hreversed⟩
    · exact hfails
    · exact absurd hreversed (by intro h; cases h)

end Scenario

end WasmGuest
