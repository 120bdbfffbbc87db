import WasmGuest.Proofs.Scenario.Reverse.Blocks

/-!
# Requests for blocks

The host gets a block when it calls `alloc` itself and when it copies a list, and
`reverse` gets one for its result.  A request of either kind keeps the heap as `Laid`
describes it if it succeeds, and what it hands out before it fails is well placed too.

* `Laid.exchange_block`, `Laid.exchange_list`, `Laid.exchange`: the exchanges of the two
  requests, and so of every one.
* `Laid.invoke`, `Laid.afterAll`: one request, and any number that succeed.
* `LendsApart` is said of the requests to one instance, and `lends_apart` proves it of
  every new one with less than two gibibytes of memory.
-/

namespace WasmGuest

namespace Scenario.Reverse

open Wasm
open Machine

/-! ## One exchange -/

section Exchanges

variable {c : Code} {g : Guest} {bs : List Lent} {st : Store} {i : Invocation}

/-- An exchange passes the arguments and calls the export. -/
theorem Goes.of_passed {limit f : Nat} {guest : Option Guest}
    (hpass : Goes limit bs (answersOf (passTrace c guest i.args st))
      (∃ params, (passArgs c guest i.args st).result = .ok params)
      (passArgs c guest i.args st).store)
    (hcall : ∀ params, (passArgs c guest i.args st).result = .ok params → ∀ bs',
      Laid limit bs' (passArgs c guest i.args st).store →
      Goes limit bs' (answersOf (callTrace c f params (passArgs c guest i.args st).store))
        (Returns (call c f params (passArgs c guest i.args st).store))
        (call c f params (passArgs c guest i.args st).store).store) :
    Goes limit bs (answersOf (exchangeTrace c guest f i st))
      (∃ outcome, (exchange c guest f i st).result = .ok outcome)
      (exchange c guest f i st).store := by
  have hexchanged := exchanged_exchange c guest f i st
  rw [exchangeTrace, answersOf_append]
  generalize exchange c guest f i st = done at hexchanged ⊢
  cases hresult : (passArgs c guest i.args st).result with
  | error e =>
    simp only [answersOf_nil, List.append_nil]
    refine ⟨hpass.placed, ?_⟩
    rintro ⟨outcome, hok⟩
    cases hexchanged with
    | refused => cases hok
    | halts hpassed | unreadable hpassed | returns hpassed => cases hresult.symm.trans hpassed
  | ok params =>
    have hgoes := (hcall params hresult _ (hpass.laid ⟨params, hresult⟩)).behind
    simp only [answersOf_passes]
    refine ⟨hgoes.placed, ?_⟩
    rintro ⟨outcome, hok⟩
    cases hexchanged with
    | returns hpassed hreturned =>
      cases hresult.symm.trans hpassed
      rw [hreturned] at hgoes
      exact hgoes.laid ⟨_, _, rfl⟩
    | refused | halts | unreadable => cases hok

variable (hc : c.funcs = #[alloc, free, reverse]) (hlimit : c.maxMemory < 2 ^ 31)
include hc hlimit

/-- The copy of a list gets the block that it asks for. -/
theorem Laid.copy (h : Laid c.maxMemory bs st) (hg : g.alloc = 0) (xs : List Int32) :
    Goes c.maxMemory bs (answersOf (g.copyTrace c ⟨xs, st⟩))
      (∃ b, (g.writeList c xs st).result = .ok b) (g.writeList c xs st).store := by
  have hcopies := Guest.copies_writeList c g xs st
  generalize g.writeList c xs st = copy at hcopies ⊢
  by_cases hlong : int32Max < (xs.length * itemSize : Nat)
  · rw [Guest.copyTrace, if_pos hlong]
    refine .of_blocks_eq_nil h.placed rfl ?_
    rintro ⟨b, hok⟩
    cases hcopies with
    | tooLong => cases hok
    | halts hshort | illTyped hshort | negative hshort | outside hshort | fills hshort =>
      exact absurd hlong hshort
  · have hsize : (Guest.bytesAsked xs).toUInt32.toNat < 2 ^ 31 := by
      have hlen := Guest.toNat_length hlong
      have hless := length_lt hlong
      rw [toUInt32_bytesAsked, toNat_mul_four (by omega), hlen]
      exact hless
    have hcall : Goes c.maxMemory bs
        (answersOf (callTrace c 0 [.i32 (Guest.bytesAsked xs).toUInt32] st))
        (Returns (g.allocate c xs st)) (g.allocate c xs st).store := by
      rw [Guest.allocate, hg]
      exact h.call_alloc hc hlimit hsize
    rw [Guest.copyTrace, if_neg hlong, hg, answersOf_append, answersOf_passes, answersOf_nil,
      List.append_nil]
    refine ⟨hcall.placed, ?_⟩
    rintro ⟨b, hok⟩
    cases hcopies with
    | @fills p after _ hreturned =>
      rw [hreturned] at hcall
      exact (hcall.laid ⟨_, _, rfl⟩).of_eq (Store.globals_write _ _ _ _)
        (Contents.memorySize_write _ _ _ _ _)
    | tooLong | halts | illTyped | negative | outside => cases hok

/-- One list is passed by a copy. -/
theorem Laid.pass (h : Laid c.maxMemory bs st) (hg : g.alloc = 0) (xs : List Int32) :
    Goes c.maxMemory bs (answersOf (passTrace c (some g) [.list xs] st))
      (∃ params, (passArgs c (some g) [.list xs] st).result = .ok params)
      (passArgs c (some g) [.list xs] st).store := by
  have hcopy := h.copy hc hlimit hg xs
  rw [passTrace]
  cases hresult : (g.writeList c xs st).result with
  | ok b =>
    rw [Guest.passings_list_ok hresult, Guest.passArgs_list_ok hresult, Guest.passings,
      List.flatMap_singleton, answersOf_append, answersOf_passes, answersOf_nil, List.append_nil]
    exact ⟨hcopy.placed, fun _ => hcopy.laid ⟨b, hresult⟩⟩
  | error e =>
    rw [Guest.passings_list_error hresult, Guest.passArgs_list_error hresult,
      List.flatMap_singleton, answersOf_append, answersOf_passes, answersOf_nil, List.append_nil]
    refine ⟨hcopy.placed, ?_⟩
    rintro ⟨params, hok⟩
    cases hok

/-- The request for a block passes its size and calls `alloc`. -/
theorem Laid.exchange_block (h : Laid c.maxMemory bs st) (guest : Option Guest) {size : Int32}
    (hargs : i.args = [.i32 size]) (hsize : 0 ≤ size) :
    Goes c.maxMemory bs (answersOf (exchangeTrace c guest 0 i st))
      (∃ outcome, (exchange c guest 0 i st).result = .ok outcome)
      (exchange c guest 0 i st).store := by
  have hword : size.toUInt32.toNat < 2 ^ 31 := by
    have hpos : ¬ size.toUInt32.toInt32 < 0 := by
      rwa [Int32.toInt32_toUInt32, Int32.not_lt]
    rw [toInt32_neg_iff] at hpos
    omega
  have hpassed : passArgs c guest i.args st = ⟨.ok [.i32 size.toUInt32], st, [], []⟩ := by
    rw [hargs]
    exact Guest.passArgs_of_scalars guest rfl
  have htrace : passTrace c guest i.args st = [] := by
    cases guest with
    | none => rfl
    | some g =>
      rw [hargs, passTrace, Guest.passings_scalar rfl]
      rfl
  have hpass : Goes c.maxMemory bs (answersOf (passTrace c guest i.args st))
      (∃ params, (passArgs c guest i.args st).result = .ok params)
      (passArgs c guest i.args st).store := by
    rw [htrace, hpassed]
    exact .of_blocks_eq_nil h.placed rfl fun _ => h
  refine hpass.of_passed fun params hparams bs' hlaid => ?_
  rw [hpassed] at hparams hlaid ⊢
  cases hparams
  exact hlaid.call_alloc hc hlimit hword

/-- The request to reverse a list copies the list and calls `reverse`. -/
theorem Laid.exchange_list (h : Laid c.maxMemory bs st) (hg : g.alloc = 0) {xs : List Int32}
    (hargs : i.args = [.list xs]) :
    Goes c.maxMemory bs (answersOf (exchangeTrace c (some g) 2 i st))
      (∃ outcome, (exchange c (some g) 2 i st).result = .ok outcome)
      (exchange c (some g) 2 i st).store := by
  have hpass := h.pass hc hlimit hg xs
  rw [← hargs] at hpass
  refine hpass.of_passed fun params hparams bs' hlaid => ?_
  obtain ⟨b, p, hcopied, rfl, -⟩ := copied_of_passed hargs hparams
  refine hlaid.call_reverse hc hlimit ?_
  rw [Guest.toNat_length hcopied.short]
  exact length_lt hcopied.short

omit hlimit

/-- Handing blocks back hands out none. -/
theorem blocks_releaseTrace (hfree : g.free = some 1) (released : List Block) (st : Store) :
    blocks (answersOf (g.releaseTrace c released st)) = [] := by
  induction released generalizing st with
  | nil => rfl
  | cons b released ih =>
    rw [Guest.releaseTrace, answersOf_append, answersOf_passes, blocks_append, hfree,
      blocks_callTrace_free hc, ih, List.nil_append]

theorem Laid.releaseAll {limit : Nat} (h : Laid limit bs st) (hfree : g.free = some 1)
    (released : List Block) : Laid limit bs (g.releaseAll c released st).store :=
  h.of_sameContents (sameContents_releaseAll hc hfree released st)

/-- An exchange through guest memory goes on with releases. -/
theorem Goes.through_memory {limit f : Nat} (hfree : g.free = some 1)
    (h : Goes limit bs (answersOf (exchangeTrace c (some g) f i st))
      (∃ outcome, (exchange c (some g) f i st).result = .ok outcome)
      (exchange c (some g) f i st).store) :
    Goes limit bs (answersOf (memoryTrace c g f i st))
      (∃ outcome, (callWithMemory c g f i st).1 = .ok outcome)
      (callWithMemory c g f i st).2.1 := by
  have hblocks : blocks (answersOf (memoryTrace c g f i st)) =
      blocks (answersOf (exchangeTrace c (some g) f i st)) := by
    simp only [memoryTrace, answersOf_append, answersOf_passes]
    rw [blocks_append, blocks_releaseTrace hc hfree, List.append_nil]
  refine ⟨by rw [hblocks]; exact h.placed, ?_⟩
  rintro ⟨outcome, hok⟩
  have hlaid := h.laid ⟨outcome, result_exchange_of_callWithMemory hok⟩
  obtain ⟨start, hstart, hwhole⟩ := callWithMemory_eq c g f i st
  have hbefore : Laid limit (bs ++ blocks (answersOf (exchangeTrace c (some g) f i st))) start := by
    rcases hstart with rfl | rfl
    · exact hlaid
    · exact hlaid.of_sameContents (.refuel _)
  rw [hblocks, hwhole]
  exact hbefore.releaseAll hc hfree _

end Exchanges

/-! ## Requests -/

/-- A request for a block whose size is not negative, or one to reverse a list. -/
inductive Asks (i : Invocation) : Prop where
  | block (size : Int32) (htarget : i.target = "alloc") (hargs : i.args = [.i32 size])
      (hsize : 0 ≤ size)
  | list (xs : List Int32) (htarget : i.target = "reverse") (hargs : i.args = [.list xs])

section Requests

variable {a : Instance} {config : Config} {bs : List Lent} {i : Invocation}

/-- The exchange of a request. -/
theorem Laid.exchange {f : Nat} {guest : Option Guest} {st : Store}
    (h : Laid a.prepared.code.maxMemory bs st) (hprepared : a.prepared = ⟨config, reverseModule⟩)
    (hlimit : a.prepared.code.maxMemory < 2 ^ 31) (hasks : Asks i)
    (hreaches : a.Reaches i f guest) :
    Goes a.prepared.code.maxMemory bs (answersOf (exchangeTrace a.prepared.code guest f i st))
      (∃ outcome, (exchange a.prepared.code guest f i st).result = .ok outcome)
      (exchange a.prepared.code guest f i st).store := by
  have hc := funcs_reverse hprepared
  obtain ⟨type, hfunction, -⟩ := hreaches.checked
  rw [hprepared] at hfunction
  cases hasks with
  | block size htarget hargs hsize =>
    rw [htarget] at hfunction
    cases hfunction
    exact h.exchange_block hc hlimit guest hargs hsize
  | list xs htarget hargs =>
    rw [htarget] at hfunction
    cases hfunction
    cases guest with
    | none =>
      have hmemory := Instance.Bypasses.usesMemory hreaches
      have hlist : [Value.list xs].any Value.isList = true := rfl
      rw [Invocation.usesMemory, hargs, hlist, Bool.or_true] at hmemory
      cases hmemory
    | some g =>
      obtain rfl := guest_of_exchanges hprepared hreaches
      exact h.exchange_list hc hlimit rfl hargs

/-- One request, whatever comes of it. -/
theorem Laid.invoke (h : Laid config.maxMemory.toNat bs a.store)
    (hprepared : a.prepared = ⟨config, reverseModule⟩) (hlimit : config.maxMemory.toNat < 2 ^ 31)
    (hasks : Asks i) :
    Goes config.maxMemory.toNat bs (answersOf (a.trace i))
      (∃ outcome, (a.invoke i).result = .ok outcome) (a.invoke i).after.store := by
  have hmax : a.prepared.code.maxMemory = config.maxMemory.toNat := by rw [hprepared]; rfl
  rw [← hmax] at h hlimit ⊢
  have hrefuelled : Laid a.prepared.code.maxMemory bs a.store.refuel :=
    h.of_sameContents (.refuel _)
  by_cases hreaches : ∃ f guest, a.Reaches i f guest
  · obtain ⟨f, guest, hreaches⟩ := hreaches
    have hexchange := hrefuelled.exchange hprepared hlimit hasks hreaches
    cases guest with
    | none =>
      obtain ⟨hresult, hafter, -⟩ := Instance.Bypasses.invoke_eq hreaches
      rw [Instance.Bypasses.trace_eq hreaches, answersOf_passes, hresult, hafter]
      refine ⟨hexchange.placed, ?_⟩
      rintro ⟨outcome, hok⟩
      exact hexchange.laid ⟨outcome, eq_ok_of_mapError_eq_ok hok⟩
    | some g =>
      obtain rfl := guest_of_exchanges hprepared hreaches
      obtain ⟨hresult, hafter, -⟩ := Instance.Exchanges.invoke_eq hreaches
      have hwhole := hexchange.through_memory (funcs_reverse hprepared) rfl
      rw [Instance.Exchanges.trace_eq hreaches, answersOf_passes, hresult, hafter]
      refine ⟨hwhole.placed, ?_⟩
      rintro ⟨outcome, hok⟩
      exact hwhole.laid ⟨outcome, eq_ok_of_mapError_eq_ok hok⟩
  · obtain ⟨⟨e, he⟩, -, -⟩ := (a.reaches_or_rejects i).resolve_left hreaches
    rw [Instance.trace_eq_nil fun f guest h => hreaches ⟨f, guest, h⟩]
    refine .of_blocks_eq_nil h.placed rfl ?_
    rintro ⟨outcome, hok⟩
    cases he.symm.trans hok

/-- The induction over requests that succeed. -/
theorem Laid.afterAll (h : Laid config.maxMemory.toNat bs a.store)
    (hprepared : a.prepared = ⟨config, reverseModule⟩) (hlimit : config.maxMemory.toNat < 2 ^ 31)
    {is : List Invocation} (hasks : ∀ i ∈ is, Asks i)
    (hok : ∀ r ∈ a.session is, ∃ outcome, r.result = .ok outcome) :
    Laid config.maxMemory.toNat (bs ++ blocks (a.answersAfter is)) (a.afterAll is).store := by
  induction is generalizing a bs with
  | nil =>
    have hnone : blocks (a.answersAfter []) = [] := rfl
    rw [hnone, List.append_nil]
    exact h
  | cons i is ih =>
    rw [Instance.session] at hok
    have hgoes := h.invoke hprepared hlimit (hasks i List.mem_cons_self)
    have hnext := hgoes.laid (hok _ List.mem_cons_self)
    rw [Instance.answersAfter_cons, blocks_append, ← List.append_assoc, Instance.afterAll_cons]
    exact ih hnext ((a.prepared_after i).trans hprepared)
      (fun i' hi' => hasks i' (List.mem_cons_of_mem i hi'))
      (fun r hr => hok r (List.mem_cons_of_mem _ hr))

end Requests

/-! ## A new instance -/

/-- The heap of a new instance is empty, and its memory has the one page that it needs at least. -/
theorem laid_initial {limit : Nat} (h : pageSize ≤ limit) : Laid limit [] initial where
  placed := allPlaced_nil
  heap := by
    refine ⟨1024, rfl, Nat.le_refl _, ⟨256, rfl⟩, ?_, fun b hb => absurd hb List.not_mem_nil⟩
    rw [memorySize_initial]
    decide
  size_le := by
    rw [memorySize_initial]
    exact h
  needed pages hpages := by
    rw [memorySize_initial]
    exact Nat.le_mul_of_pos_left pageSize hpages.1

/-- The blocks that requests to an instance get, of which all but the last one have succeeded. -/
structure LendsApart (a : Instance) (earlier : List Invocation) (last : Invocation) : Prop where
  /-- Also if the last request fails, every block that was handed out is well placed. -/
  placed : AllPlaced (blocks (a.answersAfter (earlier ++ [last])))
  /-- Between requests the memory has no more pages than the blocks need. -/
  needed : Needed (blocks (a.answersAfter earlier)) (a.afterAll earlier).store

end Scenario.Reverse

namespace Scenario

open Reverse

/-- With a memory of less than two gibibytes, the allocator of the reversing module only hands out
blocks that are behind the first kibibyte, aligned to words, inside the memory and apart from each
other, in any number of requests for blocks and for reversals, as long as none has failed.  It grows
the memory by no more pages than the blocks need. -/
theorem lends_apart (config : Config) (hlimit : config.maxMemory.toNat < 2 ^ 31) :
    ∃ p, Prepared.ofImage config (.ofText reverseText) = .ok p ∧
      ∀ a, p.instantiate = .ok a → ∀ earlier last, (∀ i ∈ earlier ++ [last], Asks i) →
        (∀ r ∈ a.session earlier, ∃ outcome, r.result = .ok outcome) →
        LendsApart a earlier last := by
  refine ⟨_, ofImage_reverseText config, ?_⟩
  intro a hinstantiate earlier last hasks hok
  obtain ⟨hpage, rfl⟩ := eq_initial_of_instantiate hinstantiate
  have hearlier := (laid_initial hpage).afterAll
    (a := ⟨⟨config, reverseModule⟩, initial⟩) rfl hlimit
    (fun i hi => hasks i (List.mem_append_left _ hi)) hok
  rw [List.nil_append] at hearlier
  have hlast := hearlier.invoke (Instance.prepared_afterAll _ earlier) hlimit
    (hasks last (List.mem_append_right _ (List.mem_singleton.2 rfl)))
  refine ⟨?_, hearlier.needed⟩
  have hnone (a : Instance) : a.answersAfter [] = [] := rfl
  rw [Instance.answersAfter_append, blocks_append, Instance.answersAfter_cons, hnone,
    List.append_nil]
  exact hlast.placed

/-- A new instance hands out a block of five bytes, then one of eight for a copied list and one of
eight for the reversed list. -/
theorem lends_apart_three : ∃ p a, Prepared.ofImage {} (.ofText reverseText) = .ok p ∧
    p.instantiate = .ok a ∧
    (blocks (a.answersAfter [allocCall 5, reversal [1, 2] none .eq])).map
      (fun b => (b.place, b.size)) = [(1024, 5), (1032, 8), (1040, 8)] ∧
    LendsApart a [allocCall 5] (reversal [1, 2] none .eq) := by
  obtain ⟨p, hp, hlends⟩ := lends_apart {} (by decide)
  cases hp.symm.trans (ofImage_reverseText {})
  have hfresh := @instantiate_reverseModule {} (by decide)
  refine ⟨_, _, hp, hfresh, rfl, hlends _ hfresh [allocCall 5] (reversal [1, 2] none .eq) ?_ ?_⟩
  · intro i hi
    rcases List.mem_append.1 hi with hi | hi
    · obtain rfl := List.mem_singleton.1 hi
      exact .block 5 rfl rfl (by decide)
    · obtain rfl := List.mem_singleton.1 hi
      exact .list [1, 2] rfl rfl
  · intro r hr
    obtain rfl := List.mem_singleton.1 hr
    exact ⟨⟨some (.i32 1024), none⟩, rfl⟩

end Scenario

end WasmGuest
