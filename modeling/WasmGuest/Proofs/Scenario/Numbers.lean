import WasmGuest.Proofs.Guest.Calls
import WasmGuest.Proofs.Machine.Loops

/-!
# Exports of one integer

An export from one integer to one is called without guest memory: the host passes
the integer, and what the machine makes of the call is the result of the
invocation.

* `Instance.Offers`: an instance exports such a function under a name.
* `Instance.Offers.result_of_call`: the result is that of the call.
* `Instance.Offers.value_of_counts`, `Instance.Offers.returns_iff_of_counts`: which
  integer is given by a function that turns a counted loop, and when.
-/

namespace WasmGuest

open Wasm (Val)
open Machine (Halt Counts)

/-- A number below `2 ^ 31` is no other as a signed integer. -/
theorem toInt_toInt32_ofNat {n : Nat} (h : n < 2147483648) :
    (UInt32.ofNat n).toInt32.toInt = n := by
  rw [UInt32.toInt32_ofNat', Int32.toInt_ofNat_of_lt h]

/-- The limit of the code is that of the configuration. -/
theorem Prepared.forall_limit_code_iff (p : Prepared) {P : Nat → Prop} :
    (∀ l, p.code.limit = some l → P l) ↔
      ∀ limit, p.config.fuel = some limit → P limit.toNat := by
  have hlimit : p.code.limit = p.config.fuel.map UInt64.toNat := rfl
  rw [hlimit]
  cases p.config.fuel <;> simp

/-- Call an export on an integer. -/
def numberCall (target : String) (n : Int32) (label : Option String) (separator : Separator) :
    Invocation where
  target := target
  args := [.i32 n]
  label := label
  separator := separator

/-- The function under a name takes an integer and gives one. -/
def Instance.Offers (a : Instance) (target : String) (f : Nat) : Prop :=
  Guest.function? a.prepared.module target = some (f, ⟨[.i32], [.i32]⟩)

namespace Instance.Offers

variable {a : Instance} {target : String} {f : Nat}

theorem bypasses (h : a.Offers target f) (n : Int32) (label : Option String)
    (separator : Separator) : a.Bypasses (numberCall target n label separator) f :=
  ⟨⟨_, h, rfl⟩, rfl⟩

/-- The call of the machine that an invocation makes. -/
def call (a : Instance) (f : Nat) (n : Int32) : Machine.CallResult :=
  Machine.call a.prepared.code f [.i32 n.toUInt32] a.store.refuel

/-- The integer that the call returns is the outcome, and a call that halts is the error. -/
theorem result_of_call (h : a.Offers target f) (n : Int32) (label : Option String)
    (separator : Separator) :
    (∀ v st, call a f n = .values [v] st →
      (a.invoke (numberCall target n label separator)).result =
        .ok ⟨Value.lift? v, fuelSpent a.prepared.code st⟩) ∧
    ∀ cause st, call a f n = .halt cause st →
      (a.invoke (numberCall target n label separator)).result =
        .error (.invocation target (.ofHalt cause)) := by
  have hargs : passArgs a.prepared.code none (numberCall target n label separator).args
      a.store.refuel = ⟨.ok [.i32 n.toUInt32], a.store.refuel, [], []⟩ := rfl
  rw [(h.bypasses n label separator).invoke_eq.1, exchange]
  simp only [hargs]
  refine ⟨fun v st hcall => ?_, fun cause st hcall => ?_⟩
  · rw [call] at hcall
    rw [hcall]
    rfl
  · rw [call] at hcall
    rw [hcall]
    rfl

section Counts

variable {n : Int32} {x : UInt32} {lastCheck cost : Nat}

/-- A function that turns a counted loop gives its integer if the limit lies behind the last head of
the loop, and runs out of fuel if not. -/
theorem result_of_counts (h : a.Offers target f)
    (hcounts : Counts a.prepared.code (.i32 x) lastCheck cost a.store.refuel.settle (call a f n))
    (label : Option String) (separator : Separator) :
    let result := (a.invoke (numberCall target n label separator)).result
    (∀ l, a.prepared.code.limit = some l → lastCheck < l) ∧
      (∃ fuel, result = .ok ⟨some (.i32 x.toInt32), fuel⟩) ∨
    (∃ l, a.prepared.code.limit = some l ∧ l ≤ lastCheck) ∧
      result = .error (.invocation target .outOfFuel) := by
  obtain ⟨hvalues, hhalt⟩ := h.result_of_call n label separator
  have hspent : a.store.refuel.settle.spent = 0 := rfl
  generalize hcall : call a f n = r at hcounts
  cases hcounts with
  | returns hfuel =>
    rw [hspent, Nat.zero_add] at hfuel
    exact .inl ⟨hfuel, _, hvalues _ _ hcall⟩
  | runsOut hlimit hfuel =>
    rw [hspent, Nat.zero_add] at hfuel
    exact .inr ⟨⟨_, hlimit, hfuel⟩, hhalt _ _ hcall⟩

theorem value_of_counts (h : a.Offers target f)
    (hcounts : Counts a.prepared.code (.i32 x) lastCheck cost a.store.refuel.settle (call a f n))
    {label : Option String} {separator : Separator} {o : Outcome}
    (ho : (a.invoke (numberCall target n label separator)).result = .ok o) :
    o.value = some (.i32 x.toInt32) := by
  rcases h.result_of_counts hcounts label separator with ⟨-, fuel, hresult⟩ | ⟨-, hresult⟩
  · cases hresult.symm.trans ho
    rfl
  · cases hresult.symm.trans ho

theorem returns_iff_of_counts (h : a.Offers target f)
    (hcounts : Counts a.prepared.code (.i32 x) lastCheck cost a.store.refuel.settle (call a f n))
    (label : Option String) (separator : Separator) :
    (∃ o, (a.invoke (numberCall target n label separator)).result = .ok o) ↔
      ∀ limit, a.prepared.config.fuel = some limit → lastCheck < limit.toNat := by
  rw [← a.prepared.forall_limit_code_iff]
  rcases h.result_of_counts hcounts label separator with
    ⟨hfuel, fuel, hresult⟩ | ⟨⟨l, hlimit, hl⟩, hresult⟩
  · exact ⟨fun _ => hfuel, fun _ => ⟨_, hresult⟩⟩
  · rw [hresult]
    refine ⟨fun ⟨_, hok⟩ => (nomatch hok), fun hfuel => ?_⟩
    exact absurd (hfuel l hlimit) (Nat.not_lt_of_le hl)

end Counts

end Instance.Offers

end WasmGuest
