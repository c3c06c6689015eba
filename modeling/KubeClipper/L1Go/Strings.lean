import KubeClipper.L1Go.Filepath
import Mathlib.Data.List.Infix
/-!
# `strings`: `ReplaceAll`, `Fields` and `Contains`

`sanitizeCommand` rewrites `kubeadm`'s output with calls of the `strings`
package. They are modelled on the characters (runes) of the string, by
structural recursion, so that `decide` runs them.

* `replaceAll s old new` replaces the occurrences of `old` scanning left to
  right, so that they do not overlap; an empty `old` matches before every
  rune and at the end.
* `fields s` is the list of the maximal runs of characters that are not
  `unicode.IsSpace`.

Results:
* `mem_fields`: every field is non-empty and holds no space.
* `mem_stringsJoin`: `strings.Join` adds no character but the separator's.
* `fields_stringsJoin`: `Fields` splits words joined by single spaces back
  into the words.
* `replaceAll_of_not_mem`: `ReplaceAll` changes nothing when a character of
  `old` does not occur.
-/
namespace KubeClipper.L1.Go

/-- `unicode.IsSpace`: `\t`, `\n`, `\v`, `\f`, `\r`, space, U+0085, U+00A0
and the rest of Unicode's `White_Space`. -/
def isSpace (c : Char) : Bool :=
  let n := c.toNat
  (9 ≤ n && n ≤ 13) || n = 32 || n = 0x85 || n = 0xA0 || n = 0x1680 || (0x2000 ≤ n && n ≤ 0x200A) ||
    n = 0x2028 || n = 0x2029 || n = 0x202F || n = 0x205F || n = 0x3000

/-! ## `strings.ReplaceAll` -/

/-- The scan of `Replace`: `skip` characters of the occurrence just replaced
are still to be passed over. -/
def replaceGo (old new : List Char) : Nat → List Char → List Char
  | _, [] => []
  | skip + 1, _ :: s => replaceGo old new skip s
  | 0, c :: s =>
    if old.isPrefixOf (c :: s) then new ++ replaceGo old new (old.length - 1) s
    else c :: replaceGo old new 0 s

/-- `strings.ReplaceAll(s, old, new)` -/
def replaceAll (s old new : String) : String :=
  if old = "" then ⟨(s.data.flatMap fun c => new.data ++ [c]) ++ new.data⟩
  else ⟨replaceGo old.data new.data 0 s.data⟩

/-! ## `strings.Fields` -/

/-- A run of characters, put in front of the fields after it unless it is empty. -/
def consRun (run : List Char) (fs : List (List Char)) : List (List Char) :=
  if run = [] then fs else run :: fs

/-- The run of non-space characters `s` starts with, and the fields after it. -/
def fieldsAux : List Char → List Char × List (List Char)
  | [] => ([], [])
  | c :: s =>
    match fieldsAux s with
    | (run, fs) => if isSpace c then ([], consRun run fs) else (c :: run, fs)

/-- `strings.Fields(s)` -/
def fields (s : String) : List String :=
  ((consRun (fieldsAux s.data).1 (fieldsAux s.data).2)).map String.mk

/-- `strings.Contains(s, substr)` -/
def contains (s substr : String) : Bool := decide (substr.data <:+: s.data)

/-! ## What `Fields` returns -/

theorem fieldsAux_cons (c : Char) (s : List Char) : fieldsAux (c :: s) =
    if isSpace c then ([], consRun (fieldsAux s).1 (fieldsAux s).2)
    else (c :: (fieldsAux s).1, (fieldsAux s).2) := by
  rw [fieldsAux]

theorem fieldsAux_spec : ∀ s : List Char,
    (∀ c ∈ (fieldsAux s).1, isSpace c = false) ∧
    ∀ f ∈ (fieldsAux s).2, f ≠ [] ∧ ∀ c ∈ f, isSpace c = false
  | [] => by simp [fieldsAux]
  | c :: s => by
    obtain ⟨ih1, ih2⟩ := fieldsAux_spec s
    rw [fieldsAux_cons]
    split_ifs with hc
    · refine ⟨by simp, fun f hf => ?_⟩
      unfold consRun at hf
      split_ifs at hf with hr
      · exact ih2 f hf
      · rcases List.mem_cons.1 hf with rfl | hf
        · exact ⟨hr, ih1⟩
        · exact ih2 f hf
    · exact ⟨List.forall_mem_cons.2 ⟨by simpa using hc, ih1⟩, ih2⟩

theorem mem_fields {s f : String} (h : f ∈ fields s) : f ≠ "" ∧ ∀ c ∈ f.data, isSpace c = false := by
  obtain ⟨h1, h2⟩ := fieldsAux_spec s.data
  obtain ⟨g, hg, rfl⟩ := List.mem_map.1 h
  unfold consRun at hg
  have hf : g ≠ [] ∧ ∀ c ∈ g, isSpace c = false := by
    split_ifs at hg with hr
    · exact h2 g hg
    · rcases List.mem_cons.1 hg with rfl | hg
      · exact ⟨hr, h1⟩
      · exact h2 g hg
  exact ⟨fun e => hf.1 (congrArg String.data e), hf.2⟩

/-- A character of `strings.Join(l, sep)` is one of the separator's or of an element's. -/
theorem mem_stringsJoin {sep : String} {c : Char} :
    ∀ {l : List String}, c ∈ (stringsJoin sep l).data → c ∈ sep.data ∨ ∃ f ∈ l, c ∈ f.data
  | [], h => by simp [stringsJoin] at h
  | [a], h => .inr ⟨a, List.mem_singleton_self a, h⟩
  | a :: b :: as, h => by
    simp only [stringsJoin, String.data_append, List.mem_append] at h
    rcases h with (h | h) | h
    · exact .inr ⟨a, List.mem_cons_self _ _, h⟩
    · exact .inl h
    · rcases mem_stringsJoin h with h | ⟨f, hf, h⟩
      · exact .inl h
      · exact .inr ⟨f, List.mem_cons_of_mem _ hf, h⟩

/-! ## Joining and splitting again -/

theorem fieldsAux_word_append {w : List Char} (x : List Char) (hw : ∀ c ∈ w, isSpace c = false) :
    fieldsAux (w ++ x) = (w ++ (fieldsAux x).1, (fieldsAux x).2) := by
  induction w with
  | nil => rfl
  | cons c w ih =>
    rw [List.cons_append, fieldsAux_cons, if_neg (by simp [hw c (List.mem_cons_self _ _)]),
      ih fun x hx => hw x (List.mem_cons_of_mem _ hx)]
    rfl

/-- `Fields` splits words joined by single spaces back into the words. -/
theorem fields_stringsJoin : ∀ {ws : List String}, (∀ w ∈ ws, w ≠ "" ∧ ∀ c ∈ w.data, isSpace c = false) →
    fields (stringsJoin " " ws) = ws
  | [], _ => rfl
  | [a], h => by
    have ha := h a (List.mem_singleton_self a)
    have hne : a.data ≠ [] := fun e => ha.1 (String.ext e)
    have hf : fieldsAux a.data = (a.data, []) := by simpa [fieldsAux] using fieldsAux_word_append [] ha.2
    unfold fields
    rw [stringsJoin, hf, consRun, if_neg hne]
    rfl
  | a :: b :: as, h => by
    have ha := h a (List.mem_cons_self _ _)
    have hne : a.data ≠ [] := fun e => ha.1 (String.ext e)
    have ih := fields_stringsJoin fun w hw => h w (List.mem_cons_of_mem _ hw)
    have hf : fieldsAux (stringsJoin " " (a :: b :: as)).data = (a.data,
        consRun (fieldsAux (stringsJoin " " (b :: as)).data).1 (fieldsAux (stringsJoin " " (b :: as)).data).2) := by
      rw [stringsJoin, String.data_append, String.data_append, List.append_assoc, fieldsAux_word_append _ ha.2,
        show (" " : String).data = [' '] from rfl, List.singleton_append, fieldsAux_cons, if_pos (by decide)]
      simp only [List.append_nil]
    unfold fields at ih ⊢
    rw [hf, consRun, if_neg hne, List.map_cons, ih]

theorem replaceGo_of_not_mem {old new : List Char} {c : Char} (hc : c ∈ old) :
    ∀ {s : List Char}, c ∉ s → replaceGo old new 0 s = s
  | [], _ => rfl
  | d :: s, hs => by
    rw [replaceGo, if_neg fun hp => hs ((List.isPrefixOf_iff_prefix.1 hp).subset hc),
      replaceGo_of_not_mem hc fun h => hs (List.mem_cons_of_mem _ h)]

/-- `ReplaceAll` changes nothing when a character of `old` does not occur. -/
theorem replaceAll_of_not_mem {s old new : String} {c : Char} (hc : c ∈ old.data) (hs : c ∉ s.data) :
    replaceAll s old new = s := by
  have hne : old ≠ "" := by rintro rfl; simp at hc
  simp only [replaceAll, hne, if_false, replaceGo_of_not_mem hc hs]

end KubeClipper.L1.Go
