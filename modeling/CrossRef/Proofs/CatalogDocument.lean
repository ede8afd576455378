import CrossRef.Catalog.Encode
import CrossRef.Catalog.Decode
import CrossRef.Proofs.JsonDocument
import Mathlib.Tactic.MkIffOfInductiveProp
import CrossRef.Proofs.RawTexts

namespace CrossRef

namespace Json

section Lists

variable {α : Type} {f : α → Json}

theorem arePlain_map (xs : List α) (h : ∀ x, (f x).isPlain) : arePlain (xs.map f) := by
  induction xs with
  | nil => rfl
  | cons x xs ih => simp [arePlain, h x, ih]

theorem areKeepable_map (xs : List α) (h : ∀ x, (f x).isKeepable) : areKeepable (xs.map f) := by
  induction xs with
  | nil => rfl
  | cons x xs ih => simp [areKeepable, h x, ih]

theorem itemDepth_map (xs : List α) {d : Nat} (h : ∀ x, (f x).depth ≤ d) :
    itemDepth (xs.map f) ≤ d := by
  induction xs with
  | nil => exact Nat.zero_le d
  | cons x xs ih => exact Nat.max_le.2 ⟨h x, ih⟩

/-- What is read of each item is read of a list. -/
theorem list?_map (xs : List α) {item? : Json → Option α} (h : ∀ x ∈ xs, item? (f x) = some x) :
    (Json.arr (xs.map f)).list? item? = some xs := by
  induction xs with
  | nil => rfl
  | cons x xs ih =>
    have htail := ih fun y hy => h y (List.mem_cons_of_mem x hy)
    simp only [list?] at htail
    simp [list?, h x List.mem_cons_self, htail]

end Lists

theorem natBelow?_nat {n bound : Nat} (h : n < bound) : (Json.nat n).natBelow? bound = some n :=
  if_pos h

theorem word64?_nat (n : UInt64) : (Json.nat n.toNat).word64? = some n := by
  rw [word64?, natBelow?_nat n.toNat_lt_size, Option.map_some, UInt64.ofNat_toNat]

theorem word32?_nat (n : UInt32) : (Json.nat n.toNat).word32? = some n := by
  rw [word32?, natBelow?_nat n.toNat_lt_size, Option.map_some, UInt32.ofNat_toNat]

theorem le_foldl_digits (n : Nat) (digits : List Char) :
    n ≤ digits.foldl (fun n c => n * 10 + (c.toNat - 0x30)) n := by
  induction digits generalizing n with
  | nil => exact Nat.le_refl n
  | cons digit digits ih =>
    have hfirst : n ≤ n * 10 + (digit.toNat - 0x30) := by omega
    exact Nat.le_trans hfirst (ih _)

/-- Digits whose number fits in sixty-four bits are all taken. -/
theorem takeDigits_fits {n : Nat} {digits : List Char}
    (h : digits.foldl (fun n c => n * 10 + (c.toNat - 0x30)) n < UInt64.size) :
    takeDigits n digits = (digits.foldl (fun n c => n * 10 + (c.toNat - 0x30)) n, []) := by
  induction digits generalizing n with
  | nil => rfl
  | cons digit digits ih =>
    have hnext : n * 10 + (digit.toNat - 0x30) < UInt64.size :=
      Nat.lt_of_le_of_lt (le_foldl_digits _ digits) h
    rw [takeDigits, if_pos hnext]
    exact ih h

theorem isFinite_digits {n : Nat} (h : n < UInt64.size) : isFinite (Nat.toDigits 10 n) := by
  have hsign : (Nat.toDigits 10 n).dropWhile (· = '-') = Nat.toDigits 10 n := by
    obtain ⟨c, tail, hdigits, hc⟩ := digits_head n
    rw [hdigits, List.dropWhile_cons_of_neg]
    rintro heq
    rw [of_decide_eq_true heq] at hc
    cases hc
  have hspan : spanDigits (Nat.toDigits 10 n) = (Nat.toDigits 10 n, []) := by
    have hall : ∀ c ∈ Nat.toDigits 10 n, c.isDigit := fun c hc => isDigit_of_mem_digits hc
    have happend : spanDigits (Nat.toDigits 10 n ++ []) = (Nat.toDigits 10 n, []) :=
      spanDigits_append hall rfl
    rwa [List.append_nil] at happend
  have htake : takeDigits 0 (Nat.toDigits 10 n) = (n, []) := by
    have hread := ofDigits_digits n
    rw [ofDigits] at hread
    rw [takeDigits_fits (by rwa [hread]), hread]
  simp only [isFinite, hsign, hspan, htake]
  simp [takeDigits, exponentOf, isFiniteProduct]

theorem isFinite_word64 (n : UInt64) : isFinite (Nat.toDigits 10 n.toNat) :=
  isFinite_digits n.toNat_lt_size

theorem isFinite_word32 (n : UInt32) : isFinite (Nat.toDigits 10 n.toNat) :=
  isFinite_digits (Nat.lt_trans n.toNat_lt_size (by decide))

end Json

namespace ParamNote

theorem ofJson?_toJson (param : ParamNote) : ofJson? param.toJson = some param := rfl

theorem isPlain_toJson (param : ParamNote) : param.toJson.isPlain := rfl

end ParamNote

namespace DocBlock

theorem ofJson?_toJson (kept : Bool) (doc : DocBlock) : ofJson? kept doc.toJson = some doc := by
  have hfields : doc.toJson.fields? ["line", "name", "kind", "description", "params"] =
      some [some (.nat doc.line.toNat), some (.str doc.name),
        some ((doc.kind.map Kind.toJson).getD .null), some (.str doc.description),
        some (.arr (doc.params.map ParamNote.toJson))] := rfl
  have hkind : Json.optional? (Json.choice? kept Kind.ofName?)
      (some ((doc.kind.map Kind.toJson).getD .null)) = some doc.kind := by
    cases hkind : doc.kind with
    | none => rfl
    | some kind => exact congrArg (Option.map some) kind.ofName?_name
  have hparams := Json.list?_map doc.params fun param _ => param.ofJson?_toJson
  rw [ofJson?, hfields]
  simp [Json.word32?_nat, Json.text?, hkind, hparams]

theorem isPlain_toJson (doc : DocBlock) : doc.toJson.isPlain := by
  have hparams := Json.arePlain_map doc.params ParamNote.isPlain_toJson
  cases hkind : doc.kind <;>
    simp [toJson, Kind.toJson, Json.isPlain, Json.arePlainMembers, hkind, hparams]

theorem isKeepable_toJson (doc : DocBlock) : doc.toJson.isKeepable := by
  have hline := Json.isFinite_word32 doc.line
  have hparams : Json.areKeepable (doc.params.map ParamNote.toJson) :=
    Json.areKeepable_map doc.params fun _ => rfl
  cases hkind : doc.kind <;>
    simp [toJson, Kind.toJson, Json.isKeepable, Json.areKeepableMembers, hkind, hline, hparams]

theorem depth_toJson (doc : DocBlock) : doc.toJson.depth ≤ 3 := by
  have hparams : Json.itemDepth (doc.params.map ParamNote.toJson) ≤ 1 :=
    Json.itemDepth_map doc.params fun _ => Nat.le_refl 1
  cases hkind : doc.kind <;>
    simp [toJson, Kind.toJson, Json.depth, Json.memberDepth, hkind] <;> omega

end DocBlock

namespace UseSite

theorem ofJson?_toJson (site : UseSite) : ofJson? site.toJson = some site := by
  have hfields : site.toJson.fields? ["file_id", "line"] =
      some [some (.nat site.fileId.toNat), some (.nat site.line.toNat)] := rfl
  rw [ofJson?, hfields]
  simp [Json.word32?_nat, Json.word64?_nat]

theorem isPlain_toJson (site : UseSite) : site.toJson.isPlain := rfl

theorem isKeepable_toJson (site : UseSite) : site.toJson.isKeepable := by
  have hfile := Json.isFinite_word64 site.fileId
  have hline := Json.isFinite_word32 site.line
  simp [toJson, Json.isKeepable, Json.areKeepableMembers, hfile, hline]

end UseSite

namespace Uses

theorem set_new {path : String} {found : List UseSite} {uses : Uses}
    (h : path ∉ uses.map Prod.fst) : set path found uses = uses ++ [(path, found)] := by
  induction uses with
  | nil => rfl
  | cons entry uses ih =>
    obtain ⟨key, old⟩ := entry
    simp only [List.map_cons, List.mem_cons, not_or] at h
    rw [set, if_neg (Ne.symm h.1), ih h.2, List.cons_append]

/-- A map of uses with distinct paths is read entry by entry, each behind those read before. -/
theorem foldlM_members (before uses : Uses) (h : ((before ++ uses).map Prod.fst).Nodup) :
    (uses.map fun (path, found) => (path, Json.arr (found.map UseSite.toJson))).foldlM
      (fun uses member => do some (set member.1 (← member.2.list? UseSite.ofJson?) uses)) before =
        some (before ++ uses) := by
  induction uses generalizing before with
  | nil => simp
  | cons entry uses ih =>
    obtain ⟨path, found⟩ := entry
    have hfound := Json.list?_map found fun site _ => site.ofJson?_toJson
    have hnew : path ∉ before.map Prod.fst := by
      rw [List.map_append, List.nodup_append] at h
      exact fun hmem => h.2.2 path hmem path List.mem_cons_self rfl
    have hmore := ih (before ++ [(path, found)]) (by simpa using h)
    rw [List.append_assoc, List.singleton_append] at hmore
    rw [List.map_cons, List.foldlM_cons, hfound]
    simpa [set_new hnew] using hmore

theorem ofJson?_toJson {uses : Uses} (h : (uses.map Prod.fst).Nodup) :
    ofJson? uses.toJson = some uses :=
  foldlM_members [] uses h

theorem isPlain_toJson (uses : Uses) : uses.toJson.isPlain := by
  induction uses with
  | nil => rfl
  | cons entry uses ih =>
    have hfound := Json.arePlain_map entry.2 UseSite.isPlain_toJson
    exact Bool.and_eq_true_iff.2 ⟨hfound, ih⟩

theorem isKeepable_toJson (uses : Uses) : uses.toJson.isKeepable := by
  induction uses with
  | nil => rfl
  | cons entry uses ih =>
    have hfound := Json.areKeepable_map entry.2 UseSite.isKeepable_toJson
    exact Bool.and_eq_true_iff.2 ⟨hfound, ih⟩

theorem depth_toJson (uses : Uses) : uses.toJson.depth ≤ 3 := by
  have hmembers : Json.memberDepth
      (uses.map fun (path, found) => (path, Json.arr (found.map UseSite.toJson))) ≤ 2 := by
    induction uses with
    | nil => exact Nat.zero_le 2
    | cons entry uses ih =>
      have hfound : Json.itemDepth (entry.2.map UseSite.toJson) ≤ 1 :=
        Json.itemDepth_map entry.2 fun _ => Nat.le_refl 1
      exact Nat.max_le.2 ⟨Nat.succ_le_succ hfound, ih⟩
  exact Nat.succ_le_succ hmembers

end Uses

namespace Declaration

/-- What holds of every declaration in memory: the position of its file fits in sixty-four bits, and
no path stands twice in the map of its uses. -/
@[mk_iff]
structure Fits (decl : Declaration) : Prop where
  file : decl.file < UInt64.size
  paths : (decl.uses.map Prod.fst).Nodup

instance (decl : Declaration) : Decidable decl.Fits :=
  decidable_of_iff _ decl.fits_iff.symm

theorem ofFields?_members (kept : Bool) {decl : Declaration} (h : decl.Fits) :
    ofFields? kept (decl.members.map fun member => some member.2) = some decl := by
  have hdoc : Json.optional? (DocBlock.ofJson? kept)
      (some ((decl.doc.map DocBlock.toJson).getD .null)) = some decl.doc := by
    cases hdoc : decl.doc with
    | none => rfl
    | some doc => exact congrArg (Option.map some) (doc.ofJson?_toJson kept)
  have hkind : decl.kind.toJson.choice? kept Kind.ofName? = some decl.kind :=
    decl.kind.ofName?_name
  simp [ofFields?, members, hkind, hdoc, Json.text?, Json.natBelow?_nat h.file, Json.word32?_nat,
    Json.word64?_nat, Uses.ofJson?_toJson h.paths]

theorem ofJson?_toJson {decl : Declaration} (h : decl.Fits) : ofJson? decl.toJson = some decl := by
  have hfields : decl.toJson.fields? fieldNames =
      some (decl.members.map fun member => some member.2) := rfl
  rw [ofJson?, hfields]
  exact ofFields?_members false h

theorem arePlain_members (decl : Declaration) (others : List (String × Json)) :
    Json.arePlainMembers (decl.members ++ others) = Json.arePlainMembers others := by
  have huses := decl.uses.isPlain_toJson
  cases hdoc : decl.doc with
  | none => simp [members, Kind.toJson, Json.arePlainMembers, Json.isPlain, hdoc, huses]
  | some doc =>
    have hplain := doc.isPlain_toJson
    simp [members, Kind.toJson, Json.arePlainMembers, Json.isPlain, hdoc, hplain, huses]

theorem isPlain_toJson (decl : Declaration) : decl.toJson.isPlain := by
  have hmembers := decl.arePlain_members []
  rwa [List.append_nil] at hmembers

/-- The members of a declaration can be kept until the whole of a package is there. -/
theorem keepable_members {decl : Declaration} (h : decl.Fits) :
    ∀ member ∈ decl.members, member.2.isKeepable ∧ member.2.depth ≤ Package.maxDepth := by
  have hfile : (Json.nat decl.file).isKeepable := Json.isFinite_digits h.file
  have hline := Json.isFinite_word32 decl.line
  have hid := Json.isFinite_word64 decl.id
  have huses := decl.uses.isKeepable_toJson
  have hdepth : decl.uses.toJson.depth ≤ Package.maxDepth :=
    Nat.le_trans decl.uses.depth_toJson (by decide)
  have hdoc : ((decl.doc.map DocBlock.toJson).getD .null).isKeepable ∧
      ((decl.doc.map DocBlock.toJson).getD .null).depth ≤ Package.maxDepth := by
    cases decl.doc with
    | none => exact ⟨rfl, Nat.zero_le _⟩
    | some doc => exact ⟨doc.isKeepable_toJson, Nat.le_trans doc.depth_toJson (by decide)⟩
  intro member hmember
  simp only [members, List.mem_cons, List.not_mem_nil, or_false] at hmember
  rcases hmember with rfl | rfl | rfl | rfl | rfl | rfl | rfl
  · exact ⟨rfl, Nat.zero_le _⟩
  · exact ⟨rfl, Nat.zero_le _⟩
  · exact ⟨hfile, Nat.zero_le _⟩
  · exact ⟨hline, Nat.zero_le _⟩
  · exact hdoc
  · exact ⟨hid, Nat.zero_le _⟩
  · exact ⟨huses, hdepth⟩

end Declaration

namespace Package

@[mk_iff]
structure Fits (package : Package) : Prop where
  decl : package.decl.Fits
  functions : ∀ decl ∈ package.functions, decl.Fits
  procedures : ∀ decl ∈ package.procedures, decl.Fits

instance (package : Package) : Decidable package.Fits :=
  decidable_of_iff _ package.fits_iff.symm

theorem ofJson?_toJson {package : Package} (h : package.Fits) :
    ofJson? package.toJson = some package := by
  have hothers : (package.decl.members ++
      [("functions", Json.arr (package.functions.map Declaration.toJson)),
        ("procedures", .arr (package.procedures.map Declaration.toJson))]).filter
          (fun member => !fieldNames.contains member.1) = package.decl.members := rfl
  have hkept : package.decl.members.all
      (fun member => member.2.isKeepable && member.2.depth ≤ maxDepth) := by
    simpa using Declaration.keepable_members h.decl
  have hdecl : Json.known? Declaration.fieldNames package.decl.members =
      some (package.decl.members.map fun member => some member.2) := rfl
  have hown : Json.known? fieldNames (package.decl.members ++
      [("functions", Json.arr (package.functions.map Declaration.toJson)),
        ("procedures", .arr (package.procedures.map Declaration.toJson))]) =
      some [some (.arr (package.functions.map Declaration.toJson)),
        some (.arr (package.procedures.map Declaration.toJson))] := rfl
  have hfunctions := Json.list?_map package.functions fun decl hdecl =>
    Declaration.ofJson?_toJson (h.functions decl hdecl)
  have hprocedures := Json.list?_map package.procedures fun decl hdecl =>
    Declaration.ofJson?_toJson (h.procedures decl hdecl)
  simp only [toJson, ofJson?]
  rw [hothers, hkept, hdecl, hown]
  simp [Declaration.ofFields?_members true h.decl, hfunctions, hprocedures]

theorem isPlain_toJson (package : Package) : package.toJson.isPlain := by
  have hfunctions := Json.arePlain_map package.functions Declaration.isPlain_toJson
  have hprocedures := Json.arePlain_map package.procedures Declaration.isPlain_toJson
  simp [toJson, Json.isPlain, Declaration.arePlain_members, Json.arePlainMembers, hfunctions,
    hprocedures]

end Package

namespace IndexedFile

/-- What holds of every file in memory whose path is a text. -/
@[mk_iff]
structure Fits (file : IndexedFile) : Prop where
  path : file.path.IsText
  views : ∀ decl ∈ file.views, decl.Fits
  packages : ∀ package ∈ file.packages, package.Fits

instance (file : IndexedFile) : Decidable file.Fits :=
  decidable_of_iff _ file.fits_iff.symm

theorem ofJson?_toJson {file : IndexedFile} (h : file.Fits) : ofJson? file.toJson = some file := by
  have hfields : file.toJson.fields? ["id", "path", "kind", "views", "packages"] =
      some [some (.nat file.id.toNat), some (.str file.key), some (.str file.kind.name),
        some (.arr (file.views.map Declaration.toJson)),
        some (.arr (file.packages.map Package.toJson))] := rfl
  have hviews := Json.list?_map file.views fun decl hdecl =>
    Declaration.ofJson?_toJson (h.views decl hdecl)
  have hpackages := Json.list?_map file.packages fun package hpackage =>
    Package.ofJson?_toJson (h.packages package hpackage)
  have hpath : RawText.ofText file.key = file.path := h.path.symm
  rw [ofJson?, hfields]
  simp [Json.word64?_nat, Json.text?, Json.choice?, Family.ofName?_name, hviews, hpackages, hpath]

theorem isPlain_toJson (file : IndexedFile) : file.toJson.isPlain := by
  have hviews := Json.arePlain_map file.views Declaration.isPlain_toJson
  have hpackages := Json.arePlain_map file.packages Package.isPlain_toJson
  simp [toJson, Json.isPlain, Json.arePlainMembers, hviews, hpackages]

end IndexedFile

namespace Catalog

theorem ofJson?_toJson {catalog : Catalog} (h : ∀ file ∈ catalog.files, file.Fits) :
    ofJson? catalog.toJson = some catalog := by
  have hfields : catalog.toJson.fields? ["files", "ids"] =
      some [some (.arr (catalog.files.map IndexedFile.toJson)),
        some (.obj [("last", .nat catalog.last.toNat)])] := rfl
  have hlast : (Json.obj [("last", .nat catalog.last.toNat)]).fields? ["last"] =
      some [some (.nat catalog.last.toNat)] := rfl
  have hfiles := Json.list?_map catalog.files fun file hfile =>
    IndexedFile.ofJson?_toJson (h file hfile)
  rw [ofJson?, hfields]
  simp [hlast, hfiles, Json.word64?_nat]

theorem isPlain_toJson (catalog : Catalog) : catalog.toJson.isPlain := by
  have hfiles := Json.arePlain_map catalog.files IndexedFile.isPlain_toJson
  simp [toJson, Json.isPlain, Json.arePlainMembers, hfiles]

/-- A catalog is loaded from its JSON text as it was, whether the text stands on one line or is laid
out. -/
theorem loads_back {catalog : Catalog} (h : ∀ file ∈ catalog.files, file.Fits) (laidOut : Bool) :
    (Json.parse? (catalog.toJson.render laidOut)).bind ofJson? = some catalog := by
  rw [Json.parse?_render catalog.isPlain_toJson]
  exact ofJson?_toJson h

/-- A catalog with the last numbers, a path that has to be escaped and documentation of no kind. -/
def atTheLimits : Catalog :=
  let uses : Uses := [("\"b\".sql\n", [⟨2, 7⟩, ⟨2, 0xffffffff⟩]), ("é/a.sql", [⟨1, 3⟩])]
  let doc : DocBlock := ⟨1, "pay", none, "Pays.", [⟨"amount", "number"⟩]⟩
  let routine : Declaration := ⟨.function, "pay", 0, 2, some doc, 0xffffffffffffffff, uses⟩
  ⟨[⟨1, "é/a.sql", .sql, [⟨.view, "v", 0, 1, none, 0, []⟩],
      [⟨⟨.package, "p", 0xffffffffffffffff, 4, some doc, 3, uses⟩, [routine], []⟩]⟩,
    ⟨2, "\"b\".sql\n", .native, [], []⟩], 0xffffffffffffffff⟩

theorem loads_back_atTheLimits :
    (∀ file ∈ atTheLimits.files, file.Fits) ∧
      (Json.parse? (atTheLimits.toJson.render true)).bind ofJson? = some atTheLimits := by
  have hfits : ∀ file ∈ atTheLimits.files, file.Fits := by decide +kernel
  exact ⟨hfits, loads_back hfits true⟩

end Catalog

end CrossRef
