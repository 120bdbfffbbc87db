import WasmGuest.Instance

/-!
# Modules that are given as text

The image of a text is read as that text.  A module whose text is known is
therefore prepared as soon as the text parses and the module is valid, and both
can be computed.
-/

namespace WasmGuest

open Wasm (Module)

theorem fromUTF8?_toUTF8 (s : String) : String.fromUTF8? s.toUTF8 = some s := by
  rw [String.fromUTF8?, String.toUTF8_eq_toByteArray, dif_pos s.isValidUTF8]
  rfl

/-- The first byte of a text that begins with an ASCII character is that character. -/
theorem toUTF8_ofList_cons {ch : Char} {cs : List Char} (h : ch.val.toNat ≤ 0x7f) :
    (String.ofList (ch :: cs)).toUTF8.data.toList =
      UInt8.ofNat ch.val.toNat :: (String.ofList cs).toUTF8.data.toList := by
  have hchar : String.utf8EncodeChar ch = [UInt8.ofNat ch.val.toNat] := by
    rw [String.utf8EncodeChar]
    exact if_pos h
  simp only [String.toUTF8_eq_toByteArray, String.toByteArray_ofList, List.utf8Encode,
    List.flatMap_cons, hchar, List.data_toByteArray, List.singleton_append]

namespace Prepared

/-- It does not matter where an image comes from. -/
theorem ofImage_origin (config : Config) (image : Image) (origin : Option String) :
    ofImage config ⟨image.bytes, origin⟩ = ofImage config image := rfl

/-- A text that begins with a parenthesis is prepared as the module that it is parsed as, if that
module is valid. -/
theorem ofImage_ofText {text : String} {cs : List Char} {m : Module} (config : Config)
    (htext : text = String.ofList ('(' :: cs)) (hread : Module.ofText ('(' :: cs) = .ok m)
    (hvalid : m.validate = .ok ()) :
    ofImage config (.ofText text) = .ok ⟨config, m⟩ := by
  have hmagic : (Image.ofText text).bytes.data.toList.take 4 ≠ Wasm.Binary.magic := by
    rw [Image.ofText, htext, toUTF8_ofList_cons (by decide), List.take_succ_cons]
    intro h
    exact absurd (List.cons.inj h).1 (by decide)
  have hbytes : Module.ofBytes (Image.ofText text).bytes = .ok m := by
    rw [Module.ofBytes, if_neg hmagic, Image.ofText, fromUTF8?_toUTF8]
    simp only [htext, String.toList_ofList, hread]
  have hcompile : Module.compile (Image.ofText text).bytes = .ok m := by
    rw [Module.compile, hbytes]
    show (do m.validate; .ok m : Except Wasm.Fault Module) = .ok m
    rw [hvalid]
    rfl
  rw [ofImage, hcompile]

end Prepared

end WasmGuest
