import WasmGuest.Text.Blank
import WasmGuest.Text.Quoted
import WasmGuest.Text.Width
import WasmGuest.Floating.Notation
import WasmGuest.Floating.Literal
import WasmGuest.Floating.Arithmetic
import WasmGuest.Wasm.Val
import WasmGuest.Wasm.Numeric
import WasmGuest.Wasm.Module
import WasmGuest.Wasm.Assembly
import WasmGuest.Wasm.Textual.Tree
import WasmGuest.Wasm.Textual.Literal
import WasmGuest.Wasm.Textual.Operator
import WasmGuest.Wasm.Textual.Fields
import WasmGuest.Wasm.Validity
import WasmGuest.Wasm.Read
import WasmGuest.Machine.Trap
import WasmGuest.Machine.Memory
import WasmGuest.Machine.Numeric
import WasmGuest.Machine.Instantiate
import WasmGuest.Value.Text
import WasmGuest.Value.Literal
import WasmGuest.Signature
import WasmGuest.Config
import WasmGuest.Error
import WasmGuest.Runner
import WasmGuest.Scenario.Table
import WasmGuest.Main
import WasmGuest.Proofs.Guest.Calls
import WasmGuest.Proofs.Guest.Release
import WasmGuest.Proofs.Guest.Lists
import WasmGuest.Proofs.Guest.Marshalling
import WasmGuest.Proofs.Guest.Custody
import WasmGuest.Proofs.Machine.Limit
import WasmGuest.Proofs.Machine.Contents
import WasmGuest.Proofs.Machine.Steps
import WasmGuest.Proofs.Machine.Checks
import WasmGuest.Proofs.Machine.Remainder
import WasmGuest.Proofs.Wasm.Exports
import WasmGuest.Proofs.Instance.Session
import WasmGuest.Proofs.Instance.Metering
import WasmGuest.Proofs.Instance.Parameters
import WasmGuest.Proofs.Instance.Preflight
import WasmGuest.Proofs.Instance.Typing
import WasmGuest.Proofs.Output
import WasmGuest.Proofs.Runner.Composition
import WasmGuest.Proofs.Runner.Cut
import WasmGuest.Proofs.Scenario.Reading
import WasmGuest.Proofs.Scenario.Reverse.Code
import WasmGuest.Proofs.Scenario.Reverse.Alloc
import WasmGuest.Proofs.Scenario.Reverse.Loop
import WasmGuest.Proofs.Scenario.Reverse.Exchange
import WasmGuest.Proofs.Scenario.Reverse.Invocation
import WasmGuest.Proofs.Instance.MemoryLimit
import WasmGuest.Proofs.Instance.Accounting
import WasmGuest.Proofs.Instance.Exhaustion
import WasmGuest.Proofs.Instance.ReleaseFuel
import WasmGuest.Proofs.Value.Grammar
import WasmGuest.Proofs.Floating.ReadBack
import WasmGuest.Proofs.Value.RoundTrip
import WasmGuest.Proofs.Instance.Forgetting
import WasmGuest.Proofs.Instance.Isolation
import WasmGuest.Proofs.Runner.Stages
import WasmGuest.Proofs.Scenario.Fibonacci.Code
import WasmGuest.Proofs.Scenario.Shipped
import WasmGuest.Proofs.Scenario.Fibonacci.Recursion
import WasmGuest.Proofs.Scenario.Fibonacci.GasTable
import WasmGuest.Proofs.Machine.Loops
import WasmGuest.Proofs.Scenario.Numbers
import WasmGuest.Proofs.Scenario.SumOfSquares.Code
import WasmGuest.Proofs.Scenario.SumOfSquares.Sum
import WasmGuest.Proofs.Scenario.Fibonacci.Iteration
import WasmGuest.Proofs.Scenario.Fibonacci.Invocation
import WasmGuest.Proofs.Scenario.Reverse.Overrun
import WasmGuest.Proofs.Scenario.Reverse.Heap
import WasmGuest.Proofs.Scenario.Termination
import WasmGuest.Proofs.Scenario.Pythagoras
import WasmGuest.Proofs.Guest.Copying
import WasmGuest.Proofs.Text.ByteOrder
import WasmGuest.Proofs.Wasm.Listing
import WasmGuest.Proofs.Machine.Answers
import WasmGuest.Proofs.Instance.Trace
import WasmGuest.Proofs.Scenario.Reverse.Blocks
import WasmGuest.Proofs.Scenario.Reverse.Requests
import WasmGuest.Proofs.Guest.Reading
import WasmGuest.Proofs.Signature
