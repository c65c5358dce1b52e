import SemanticLayer.Manifest.Format.Basic
import SemanticLayer.Proofs.Yaml.Stream

/-!
# Readers restore what is written

A reader restores what a writer writes when it takes every document of the writer back to the value,
`Restores`. Readers of records restore field by field: each field is found by its name among those
that are present.
-/

namespace SemanticLayer

open Document (IsSound)

variable {α β γ : Type}

/-- The reader takes what is written back, and the documents can be told from their texts. Nothing
is written as nothing, which is how a missing value is read. -/
structure Restores (r : Reader α) (write : α → Document) : Prop where
  read    (a : α) : r (write a) = .ok a
  sound   (a : α) : (write a).IsSound
  ne_null (a : α) : write a ≠ .null

/-! ### Scalars and lists -/

lemma restores_text : Restores .text .string := ⟨fun _ => rfl, .string, by simp⟩

lemma restores_bool : Restores .bool .bool := ⟨fun _ => rfl, .bool, by simp⟩

lemma restores_number : Restores .number .float := ⟨fun _ => rfl, .float, by simp⟩

lemma restores_int64 : Restores .int64 .ofInt64 where
  read n := by
    have hlow := n.le_toInt
    have hhigh := n.toInt_lt
    simp only [Document.ofInt64, Reader.int64]
    rw [if_pos ⟨by omega, by omega⟩, Int64.ofInt_toInt]
  sound n := by
    have hlow := n.le_toInt
    have hhigh := n.toInt_lt
    exact .int (by omega) (by omega)
  ne_null n := by simp [Document.ofInt64]

lemma restores_uint64 : Restores .uint64 .ofUInt64 where
  read n := by
    have hhigh := n.toNat_lt
    simp only [Document.ofUInt64, Reader.uint64]
    rw [if_pos ⟨by omega, by omega⟩, Int.toNat_natCast, UInt64.ofNat_toNat]
  sound n := by
    have hhigh := n.toNat_lt
    exact .int (by omega) (by omega)
  ne_null n := by simp [Document.ofUInt64]

lemma restores_word (α : Type) [Vocabulary α] : Restores (.word α) .ofWord where
  read a := by simp [Reader.word, Document.ofWord, Reader.word.named]
  sound a := .string _
  ne_null a := by simp [Document.ofWord]

lemma Restores.each {r : Reader α} {write : α → Document} (h : Restores r write) (as : List α) :
    Reader.each r (as.map write) = .ok as := by
  induction as with
  | nil => rfl
  | cons a as ih => simp [Reader.each, h.read, ih]

lemma Restores.list {r : Reader α} {write : α → Document} (h : Restores r write) :
    Restores (.list r) fun as => .list (as.map write) where
  read as := h.each as
  sound as := .list (List.forall_mem_map.2 fun a _ => h.sound a)
  ne_null as := by simp

lemma restores_texts : Restores (.list .text) .ofTexts := restores_text.list

/-! ### Fields -/

/-- The fields that have a value. -/
def present (fields : List (String × Option Document)) : List (String × Document) :=
  fields.filterMap fun (name, value) => value.map (name, ·)

section Present

variable {name : String} {value : Option Document} {fields : List (String × Option Document)}

/-- A field that is present has a value. -/
lemma mem_present {f : String × Document} (h : f ∈ present fields) : (f.1, some f.2) ∈ fields := by
  obtain ⟨⟨key, value⟩, hmem, hf⟩ := List.mem_filterMap.1 h
  obtain ⟨d, rfl, rfl⟩ := Option.map_eq_some_iff.1 hf
  exact hmem

lemma map_fst_present_sublist : ((present fields).map Prod.fst).Sublist (fields.map Prod.fst) := by
  induction fields with
  | nil => exact .slnil
  | cons f fields ih =>
    obtain ⟨key, value⟩ := f
    cases value with
    | none   => exact ih.cons key
    | some d => exact ih.cons_cons key

lemma lookup_present_eq_none (h : name ∉ fields.map Prod.fst) :
    (present fields).lookup name = none := by
  rw [List.lookup_eq_none_iff]
  intro f hf
  have hmem : f.1 ∈ fields.map Prod.fst := List.mem_map_of_mem (mem_present hf)
  exact bne_iff_ne.2 fun heq => h (heq ▸ hmem)

/-- A field is found by its name. -/
lemma lookup_present (hnames : (fields.map Prod.fst).Nodup) (h : (name, value) ∈ fields) :
    (present fields).lookup name = value := by
  induction fields with
  | nil => exact absurd h List.not_mem_nil
  | cons f fields ih =>
    obtain ⟨key, value'⟩ := f
    rw [List.map_cons, List.nodup_cons] at hnames
    obtain heq | hmem := List.mem_cons.1 h
    · obtain ⟨rfl, rfl⟩ := Prod.mk.inj heq
      cases value with
      | none =>
        show (present fields).lookup name = none
        exact lookup_present_eq_none hnames.1
      | some d => exact List.lookup_cons_self
    · have hname : name ∈ fields.map Prod.fst := List.mem_map.2 ⟨_, hmem, rfl⟩
      have hne : (name == key) = false := by
        rw [beq_eq_false_iff_ne]
        rintro rfl
        exact hnames.1 hname
      cases value' with
      | none =>
        show (present fields).lookup name = value
        exact ih hnames.2 hmem
      | some d =>
        show ((key, d) :: present fields).lookup name = value
        rw [List.lookup_cons, hne]
        exact ih hnames.2 hmem

end Present

namespace Fields

variable {fs : List (String × Document)} {name : String}

lemma find?_eq_none (h : fs.lookup name = none) (place : ℕ) : find? name fs place = none := by
  induction fs generalizing place with
  | nil => rfl
  | cons f fs ih =>
    obtain ⟨key, d⟩ := f
    rw [List.lookup_cons] at h
    split at h
    · cases h
    · rename_i hne
      rw [find?, BEq.comm, hne, if_neg (by simp), ih h]

lemma find?_eq_some {d : Document} (h : fs.lookup name = some d) (place : ℕ) :
    ∃ found, find? name fs place = some (found, d) := by
  induction fs generalizing place with
  | nil => cases h
  | cons f fs ih =>
    obtain ⟨key, d⟩ := f
    rw [List.lookup_cons] at h
    split at h
    · rename_i heq
      obtain rfl := Option.some.inj h
      exact ⟨place, by rw [find?, BEq.comm, heq, if_pos rfl]⟩
    · rename_i hne
      rw [find?, BEq.comm, hne, if_neg (by simp)]
      exact ih h _

/-- The reader of fields takes what is written in the fields back to the value, wherever else the
object has fields. -/
structure Mirrors (f : Fields α) (a : α) (written : List (String × Option Document)) : Prop where
  read  (fs : List (String × Document)) (h : ∀ w ∈ written, fs.lookup w.1 = w.2) (i : ℕ) :
    f.read (.object fs) i = .ok a
  sound : ∀ w ∈ written, ∀ d ∈ w.2, d.IsSound

lemma Mirrors.seq {f : Fields (α → β)} {g : α → β} {field : Fields α} {a : α}
    {written written' : List (String × Option Document)} (hf : f.Mirrors g written)
    (ha : field.Mirrors a written') : (f <*> field).Mirrors (g a) (written ++ written') where
  read fs h i := by
    obtain ⟨h₁, h₂⟩ := List.forall_mem_append.1 h
    show both (f.read _ _) (field.read _ _) = _
    rw [hf.read fs h₁, ha.read fs h₂]
    rfl
  sound := List.forall_mem_append.2 ⟨hf.sound, ha.sound⟩

lemma Mirrors.map {field : Fields α} {a : α} {written : List (String × Option Document)}
    (ha : field.Mirrors a written) (g : α → β) : (g <$> field).Mirrors (g a) written where
  read fs h i := by
    show both (.ok g) (field.read _ _) = _
    rw [ha.read fs h]
    rfl
  sound := ha.sound

section Field

variable {r : Reader α} {write : α → Document} {a other : α} {o : Option α}

lemma mirrors_field {leftOut leftOutOfList : Option α} (h : Restores r write) :
    (field name r leftOut leftOutOfList).Mirrors a [(name, some (write a))] where
  read fs hfs i := by
    obtain ⟨place, hfind⟩ := find?_eq_some (hfs _ List.mem_cons_self) 0
    simp only [field, hfind, h.read, placed]
  sound := by simpa using h.sound a

lemma mirrors_required (h : Restores r write) :
    (required name r).Mirrors a [(name, some (write a))] :=
  mirrors_field h

lemma mirrors_filled (h : Restores r write) :
    (filled name other r).Mirrors a [(name, some (write a))] :=
  mirrors_field h

lemma option_write (h : Restores r write) (a : α) : Reader.option r (write a) = .ok (some a) := by
  have hne := h.ne_null a
  unfold Reader.option
  split
  · exact absurd ‹_› hne
  · rw [h.read]

lemma mirrors_optional (h : Restores r write) :
    (optional name r).Mirrors o [(name, o.map write)] where
  read fs hfs i := by
    have hlookup := hfs _ List.mem_cons_self
    cases o with
    | none => simp only [optional, field, find?_eq_none hlookup 0]
    | some a =>
      obtain ⟨place, hfind⟩ := find?_eq_some hlookup 0
      simp only [optional, field, hfind, option_write h, placed]
  sound := by
    cases o with
    | none   => simp
    | some a => simpa using h.sound a

end Field

end Fields

/-! ### Records and alternatives -/

section Record

variable {r r' : Reader α} {rs : List (Reader α)} {fields : Fields α} {write : α → Document}
  {written : α → List (String × Option Document)}

/-- A record is restored if each of its fields is, and no name occurs twice. -/
lemma restores_of_mirrors (hr : ∀ fs, r (.object fs) = Reader.unplaced (fields.read (.object fs) 0))
    (hfields : ∀ a, fields.Mirrors a (written a)) (hwrite : ∀ a, write a = .ofPresent (written a))
    (hnames : ∀ a, ((written a).map Prod.fst).Nodup) : Restores r write where
  read a := by
    rw [hwrite]
    show r (.object (present (written a))) = _
    rw [hr, (hfields a).read _ fun w hw => lookup_present (hnames a) hw]
    rfl
  sound a := by
    rw [hwrite]
    exact .object ((hnames a).sublist map_fst_present_sublist) fun f hf =>
      (hfields a).sound _ (mem_present hf) f.2 rfl
  ne_null a := by simp [hwrite, Document.ofPresent]

/-- The first of several readers restores what it restores alone. -/
lemma Restores.firstOf {type : String} (h : Restores r write) :
    Restores (.firstOf type (r :: rs)) write where
  read a := by simp only [Reader.firstOf, h.read]
  sound := h.sound
  ne_null := h.ne_null

/-- Readers that fail may stand in front of the one that restores. -/
lemma Restores.firstOf_cons {type : String} (h : Restores (.firstOf type rs) write)
    (hfail : ∀ a, ∃ e, r' (write a) = .error e) : Restores (.firstOf type (r' :: rs)) write where
  read a := by
    obtain ⟨e, he⟩ := hfail a
    simp only [Reader.firstOf, he, h.read]
  sound := h.sound
  ne_null := h.ne_null

end Record

end SemanticLayer
