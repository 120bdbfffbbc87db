import WasmGuest.Proofs.Runner.Composition
import WasmGuest.Proofs.Scenario.Reading
import WasmGuest.Scenario.Table

/-!
# The shipped modules as files

A path without a slash is one name.  Unless that has a meaning of its own it leads
to what stands under it in the current directory.  The shipped modules stand under
such names.

* `Files.Plain` are these names, and `Files.resolve_of_plain` follows one.
* `Scenario.files_of_mem_texts`: every shipped module is found by its file name,
  and `Scenario.fresh_of_mem_texts` makes an instance of it.
-/

namespace WasmGuest

namespace Files

/-- A name that can be given to a file, and as a path means nothing else. -/
structure Plain (name : String) : Prop where
  ne_empty : name ≠ ""
  ne_here : name ≠ "."
  ne_up : name ≠ ".."
  no_slash : '/' ∉ name.toList
  no_null : '\x00' ∉ name.toList
  short : name.utf8ByteSize ≤ maxName

variable {fs : Files} {name : String}

theorem parts_of_no_slash (h : '/' ∉ name.toList) : parts name = [name] := by
  show (name.split '/').toList.map String.Slice.copy = [name]
  rw [String.toList_split_char, List.splitOn_eq_singleton h, List.map_singleton,
    String.ofList_toList]

theorem names_of_plain (h : Plain name) : names name = [name] := by
  rw [names, parts_of_no_slash h.no_slash]
  exact List.filter_cons_of_pos (decide_eq_true h.ne_empty)

theorem enter_of_plain (h : Plain name) {node : FileNode} (hnode : fs.lookup [name] = some node)
    (htop : ∀ bytes, fs.lookup [] ≠ some (.file bytes)) :
    fs.enter (.inside []) name = .ok (.inside [name]) := by
  have hshort : ¬ maxName < name.utf8ByteSize := Nat.not_lt.2 h.short
  simp only [enter, List.reverse_nil, List.reverse_singleton, hnode, h.ne_empty, h.ne_here,
    h.ne_up, hshort, or_self, if_false]

/-- A plain name leads to the node that stands under it. -/
theorem resolve_of_plain (h : Plain name) {node : FileNode} (hnode : fs.lookup [name] = some node)
    (htop : ∀ bytes, fs.lookup [] ≠ some (.file bytes)) : fs.resolve name = .ok node := by
  have hnull : name.any (· == '\x00') = false := by
    rw [String.any, String.contains_bool_eq, List.any_eq_false]
    intro c hc heq
    exact h.no_null (eq_of_beq heq ▸ hc)
  have hrelative : name.startsWith "/" = false := by
    rw [String.startsWith_string_eq_false_iff]
    intro hstart
    exact h.no_slash (hstart.subset (by decide))
  have hshort : ¬ maxPath < name.utf8ByteSize :=
    Nat.not_lt.2 (Nat.le_trans h.short (by decide))
  rw [resolve, hnull, String.isEmpty_eq_false_iff.2 h.ne_empty, hrelative,
    parts_of_no_slash h.no_slash]
  simp only [Bool.false_eq_true, if_false, hshort, List.foldlM_cons, List.foldlM_nil,
    enter_of_plain h hnode htop]
  show Except.ok ((fs.lookup [name]).getD .directory) = .ok node
  rw [hnode]
  rfl

/-- Texts that are added in turn stand in front of the other files, the last one first. -/
theorem foldl_addFile (texts : List (String × String)) (fs : Files)
    (h : ∀ t ∈ texts, Plain t.1) :
    texts.foldl (fun fs t => fs.addFile t.1 t.2.toUTF8) fs =
      ⟨(texts.reverse.map fun t => ([t.1], .file t.2.toUTF8)) ++ fs.entries⟩ := by
  induction texts generalizing fs with
  | nil => rfl
  | cons t texts ih =>
    obtain ⟨ht, htexts⟩ := List.forall_mem_cons.1 h
    rw [List.foldl_cons, ih _ htexts, addFile, names_of_plain ht, List.reverse_cons,
      List.map_append, List.append_assoc]
    rfl

end Files

namespace Scenario

open Files

theorem plain_of_mem_texts {t : String × String} (h : t ∈ texts) : Plain t.1 := by
  simp only [texts, List.mem_cons, List.not_mem_nil, or_false] at h
  rcases h with rfl | rfl | rfl | rfl | rfl | rfl <;> constructor <;> decide

/-- The shipped modules stand under their names. -/
theorem files_eq : files =
    Files.resolve ⟨texts.reverse.map fun t => ([t.1], .file t.2.toUTF8)⟩ := by
  have hall := foldl_addFile texts {} fun _ => plain_of_mem_texts
  rw [List.append_nil] at hall
  exact congrArg Files.resolve hall

/-- Every shipped module is found by its file name. -/
theorem files_of_mem_texts {t : String × String} (h : t ∈ texts) :
    files t.1 = .ok (.file t.2.toUTF8) := by
  rw [files_eq]
  refine resolve_of_plain (plain_of_mem_texts h) ?_ ?_
  · simp only [texts, List.mem_cons, List.not_mem_nil, or_false] at h
    rcases h with rfl | rfl | rfl | rfl | rfl | rfl <;> rfl
  · intro bytes hfile
    cases hfile

/-- A shipped module is instantiated as its text is prepared. -/
theorem fresh_of_mem_texts {t : String × String} (h : t ∈ texts) {config : Config} {p : Prepared}
    (hprepared : Prepared.ofImage config (.ofText t.2) = .ok p) :
    fresh config files t.1 = p.instantiate := by
  rw [← Prepared.ofImage_origin config (.ofText t.2) (some t.1)] at hprepared
  exact fresh_of_file (files_of_mem_texts h) hprepared

end Scenario

end WasmGuest
