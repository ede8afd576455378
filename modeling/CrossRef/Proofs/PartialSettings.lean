import CrossRef.Proofs.TomlDocument
import CrossRef.Proofs.WrittenTexts
import CrossRef.Settings.Files

namespace CrossRef.Settings

/-- The tables of a document of settings. -/
inductive Table
  | general
  | files
  | process
  | pages
  deriving DecidableEq

/-- The keys of its tables. -/
inductive Key
  | title
  | root
  | ignoreDirs
  | sqlExtensions
  | nativeExtensions
  | blindOffset
  | parallel
  | page (page : Page)
  deriving DecidableEq

namespace Table

def all : List Table :=
  [.general, .files, .process, .pages]

def name : Table → String
  | general => "general"
  | files => "files"
  | process => "process"
  | pages => "pages"

def keys : Table → List Key
  | general => [.title]
  | files => [.root, .ignoreDirs, .sqlExtensions, .nativeExtensions]
  | process => [.blindOffset, .parallel]
  | pages => Page.all.map .page

end Table

namespace Key

def name : Key → String
  | title => "title"
  | root => "root"
  | ignoreDirs => "ignore_dirs"
  | sqlExtensions => "sql_extensions"
  | nativeExtensions => "native_extensions"
  | blindOffset => "blind_offset"
  | parallel => "parallel"
  | page shown => shown.name

def table : Key → Table
  | title => .general
  | root | ignoreDirs | sqlExtensions | nativeExtensions => .files
  | blindOffset | parallel => .process
  | page _ => .pages

end Key

/-- What a key is set to. -/
def value (settings : Settings) : Key → Toml.Plain
  | .title => .text settings.general.title
  | .root => .text settings.files.root.text
  | .ignoreDirs => .texts settings.files.ignoreDirs
  | .sqlExtensions => .texts settings.files.sqlExtensions
  | .nativeExtensions => .texts settings.files.nativeExtensions
  | .blindOffset => .whole settings.process.blindOffset
  | .parallel => .flag settings.process.parallel
  | .page page => .flag (settings.pages.isEnabled page)

/-- Settings whose roots are texts are what their keys are set to. -/
theorem eq_of_value {a b : Settings} (ha : a.files.root.IsText) (hb : b.files.root.IsText)
    (h : ∀ key, a.value key = b.value key) : a = b := by
  have hroot : a.files.root = b.files.root := by
    rw [ha, hb, Toml.Plain.text.inj (h .root)]
  have hpage (page : Page) : a.pages.isEnabled page = b.pages.isEnabled page :=
    Toml.Plain.flag.inj (h (.page page))
  have hpages : a.pages = b.pages := by
    rw [PageSettings.mk.injEq]
    exact ⟨hpage .filePath, hpage .file, hpage .view, hpage .package, hpage .packageFull,
      hpage .function, hpage .procedure⟩
  obtain ⟨⟨title⟩, ⟨root, ignoreDirs, sqlExtensions, nativeExtensions⟩, ⟨offset, parallel⟩,
    pages⟩ := a
  obtain ⟨⟨title'⟩, ⟨root', ignoreDirs', sqlExtensions', nativeExtensions'⟩, ⟨offset', parallel'⟩,
    pages'⟩ := b
  obtain rfl : title = title' := Toml.Plain.text.inj (h .title)
  obtain rfl : root = root' := hroot
  obtain rfl : ignoreDirs = ignoreDirs' := Toml.Plain.texts.inj (h .ignoreDirs)
  obtain rfl : sqlExtensions = sqlExtensions' := Toml.Plain.texts.inj (h .sqlExtensions)
  obtain rfl : nativeExtensions = nativeExtensions' := Toml.Plain.texts.inj (h .nativeExtensions)
  obtain rfl : offset = offset' := Toml.Plain.whole.inj (h .blindOffset)
  obtain rfl : parallel = parallel' := Toml.Plain.flag.inj (h .parallel)
  obtain rfl : pages = pages' := hpages
  rfl

/-- The settings with the standard values of some keys, and with the root as it is shown. -/
def without (settings : Settings) (gone : Key → Bool) : Settings :=
  let text (key : Key) (own standard : String) := if gone key then standard else own
  let texts (key : Key) (own standard : List String) := if gone key then standard else own
  let flag (key : Key) (own standard : Bool) := if gone key then standard else own
  let page (page : Page) :=
    flag (.page page) (settings.pages.isEnabled page) (standard.pages.isEnabled page)
  { general := ⟨text .title settings.general.title standard.general.title⟩
    files :=
      { root := if gone .root then standard.files.root else settings.files.root.text
        ignoreDirs := texts .ignoreDirs settings.files.ignoreDirs standard.files.ignoreDirs
        sqlExtensions :=
          texts .sqlExtensions settings.files.sqlExtensions standard.files.sqlExtensions
        nativeExtensions :=
          texts .nativeExtensions settings.files.nativeExtensions standard.files.nativeExtensions }
    process :=
      { blindOffset :=
          if gone .blindOffset then standard.process.blindOffset else settings.process.blindOffset
        parallel := flag .parallel settings.process.parallel standard.process.parallel }
    pages :=
      { filePath := page .filePath
        file := page .file
        view := page .view
        package := page .package
        packageFull := page .packageFull
        function := page .function
        procedure := page .procedure } }

theorem value_without (settings : Settings) (gone : Key → Bool) (key : Key) :
    (settings.without gone).value key =
      if gone key then standard.value key else settings.value key := by
  cases key with
  | title => exact apply_ite Toml.Plain.text _ _ _
  | root =>
    have hshown : (RawText.ofText settings.files.root.text).text = settings.files.root.text :=
      RawText.text_ofText _
    dsimp only [value, without]
    split
    next => rfl
    next => rw [hshown]
  | ignoreDirs => exact apply_ite Toml.Plain.texts _ _ _
  | sqlExtensions => exact apply_ite Toml.Plain.texts _ _ _
  | nativeExtensions => exact apply_ite Toml.Plain.texts _ _ _
  | blindOffset => exact apply_ite Toml.Plain.whole _ _ _
  | parallel => exact apply_ite Toml.Plain.flag _ _ _
  | page page => cases page <;> exact apply_ite Toml.Plain.flag _ _ _

theorem isText_root_without (settings : Settings) (gone : Key → Bool) :
    (settings.without gone).files.root.IsText := by
  dsimp only [without]
  split
  next => exact RawText.isText_ofText "."
  next => exact RawText.isText_ofText _

/-- What a document of settings is made of: the header of each table, and the entry of each key. -/
inductive Item
  | table (table : Table)
  | key (key : Key)
  deriving DecidableEq

namespace Item

/-- The items in the order of the document. -/
def all : List Item :=
  Table.all.flatMap fun table => .table table :: table.keys.map .key

/-- The text of an item. All headers but the first stand behind a blank line. -/
def written (settings : Settings) : Item → List Char
  | table part =>
    List.replicate (if part = .general then 0 else 1) '\n' ++ Toml.headerLine part.name
  | key entry => Toml.entryLine entry.name (settings.value entry).written

/-- Whether an item is left out. The keys of a table are left out with its header. -/
def isLeftOut (omitted : Item → Bool) : Item → Bool
  | table part => omitted (.table part)
  | key entry => omitted (.table entry.table) || omitted (.key entry)

end Item

/-- The document of all settings without some of its items. -/
def renderWithout (settings : Settings) (omitted : Item → Bool) : String :=
  String.ofList
    ((Item.all.filter fun item => !item.isLeftOut omitted).flatMap (Item.written settings))

theorem renderWithout_nothing (settings : Settings) :
    settings.renderWithout (fun _ => false) = settings.render := by
  have hall : (Item.all.filter fun item => !item.isLeftOut fun _ => false) = Item.all := by
    decide +kernel
  refine congrArg String.ofList ?_
  rw [hall]
  simp [Item.all, Item.written, Table.all, Table.keys, Table.name, GeneralSettings.render,
    FileSettings.render, ProcessSettings.render, PageSettings.render, Page.all, Key.name, value,
    Toml.Plain.written]

/-- What is left of a table in the document. -/
def sectionWithout (settings : Settings) (omitted : Item → Bool) (table : Table) : Toml.Section :=
  { gap := if table = .general then 0 else 1
    name := table.name
    entries := (table.keys.filter fun key => !omitted (.key key)).map
      fun key => (key.name, settings.value key) }

def sectionsWithout (settings : Settings) (omitted : Item → Bool) : List Toml.Section :=
  (Table.all.filter fun table => !omitted (.table table)).map (settings.sectionWithout omitted)

theorem table_of_mem_keys {table : Table} {key : Key} (h : key ∈ table.keys) :
    key.table = table := by
  revert key
  cases table <;> decide

/-- The items that are left are those of the tables that are left. -/
theorem renderWithout_eq (settings : Settings) (omitted : Item → Bool) :
    settings.renderWithout omitted =
      String.ofList ((settings.sectionsWithout omitted).flatMap Toml.Section.written) := by
  have htable (table : Table) :
      ((Item.table table :: table.keys.map .key).filter fun item =>
          !item.isLeftOut omitted).flatMap (Item.written settings) =
        if omitted (.table table) then [] else (settings.sectionWithout omitted table).written := by
    have hkey : ∀ key ∈ table.keys, (Item.key key).isLeftOut omitted =
        (omitted (.table table) || omitted (.key key)) := by
      intro key hkey
      rw [Item.isLeftOut, table_of_mem_keys hkey]
    have hkeys : (table.keys.map Item.key).filter (fun item => !item.isLeftOut omitted) =
        (table.keys.filter fun key => !(omitted (.table table) || omitted (.key key))).map
          Item.key := by
      rw [List.filter_map]
      refine congrArg _ (List.filter_congr fun key h => ?_)
      rw [Function.comp_apply, hkey key h]
    rw [List.filter_cons, hkeys]
    cases htable : omitted (.table table) with
    | true => simp [Item.isLeftOut, htable]
    | false =>
      simp [Item.isLeftOut, htable, Toml.Section.written, Toml.Section.lines, sectionWithout,
        Item.written, List.flatMap_map]
  have htables (tables : List Table) :
      tables.flatMap (fun table => if omitted (.table table) then []
        else (settings.sectionWithout omitted table).written) =
      (tables.filter fun table => !omitted (.table table)).flatMap
        fun table => (settings.sectionWithout omitted table).written := by
    induction tables with
    | nil => rfl
    | cons table tables ih => cases h : omitted (.table table) <;> simp [h, ih]
  refine congrArg String.ofList ?_
  rw [Item.all, List.filter_flatMap, List.flatMap_assoc, sectionsWithout, List.flatMap_map,
    ← htables]
  exact List.flatMap_congr fun table _ => htable table

theorem Table.mem_all (table : Table) : table ∈ Table.all := by
  cases table <;> simp [Table.all]

theorem isBareKey_name (key : Key) : Toml.IsBareKey key.name := by
  cases key with
  | page page => cases page <;> decide
  | _ => decide

theorem isBareKey_tableName (table : Table) : Toml.IsBareKey table.name := by
  cases table <;> decide

theorem nodup_names : (Table.all.map Table.name).Nodup ∧
    ∀ table ∈ Table.all, (table.keys.map Key.name).Nodup := by
  decide +kernel

theorem isNamed_sectionWithout (settings : Settings) (omitted : Item → Bool) (table : Table) :
    (settings.sectionWithout omitted table).IsNamed where
  name := isBareKey_tableName table
  keys := by
    intro entry hentry
    obtain ⟨key, _, rfl⟩ := List.mem_map.mp hentry
    exact isBareKey_name key
  distinct := by
    have hkeys := nodup_names.2 table table.mem_all
    have hsub : (table.keys.filter fun key => !omitted (.key key)).Sublist table.keys :=
      List.filter_sublist
    have hnames := hkeys.sublist (hsub.map Key.name)
    simpa [sectionWithout, Function.comp_def] using hnames

theorem parse?_renderWithout (settings : Settings) (omitted : Item → Bool) :
    Toml.parse? (settings.renderWithout omitted) =
      some ((settings.sectionsWithout omitted).map Toml.Section.member) := by
  rw [renderWithout_eq]
  refine Toml.parse?_sections ?_ ?_
  · intro part hpart
    obtain ⟨table, _, rfl⟩ := List.mem_map.mp hpart
    exact settings.isNamed_sectionWithout omitted table
  · have hsub : (Table.all.filter fun table => !omitted (.table table)).Sublist Table.all :=
      List.filter_sublist
    have hnames := nodup_names.1.sublist (hsub.map Table.name)
    simpa [sectionsWithout, sectionWithout, Function.comp_def] using hnames

/-- Of the items that are kept, each is found under its name. -/
theorem lookup_kept {α β : Type} {items : List α} {name : α → String}
    (hnames : (items.map name).Nodup) (omitted : α → Bool) (value : α → β) {item : α}
    (h : item ∈ items) :
    ((items.filter (!omitted ·)).map fun item => (name item, value item)).lookup (name item) =
      if omitted item then none else some (value item) := by
  induction items with
  | nil => simp at h
  | cons first items ih =>
    rw [List.map_cons, List.nodup_cons] at hnames
    rcases List.mem_cons.mp h with rfl | h
    · cases homitted : omitted item with
      | false => simp [homitted]
      | true =>
        rw [List.filter_cons_of_neg (by simp [homitted]), if_pos rfl, List.lookup_eq_none_iff]
        intro entry hentry
        obtain ⟨other, hother, rfl⟩ := List.mem_map.mp hentry
        rw [bne_iff_ne]
        intro heq
        exact hnames.1 (heq ▸ List.mem_map_of_mem (List.mem_filter.mp hother).1)
    · have hne : (name item == name first) = false := by
        rw [beq_eq_false_iff_ne]
        intro heq
        exact hnames.1 (heq ▸ List.mem_map_of_mem h)
      cases homitted : omitted first with
      | false => simpa [homitted, List.lookup_cons, hne] using ih hnames.2 h
      | true => simpa [homitted] using ih hnames.2 h

theorem mapM_text? (items : List String) : (items.map Toml.str).mapM Toml.text? = some items := by
  induction items with
  | nil => rfl
  | cons item items ih => simp [List.mapM_cons, ih, Toml.text?]

section

variable (settings : Settings) (omitted : Item → Bool)

/-- The value of a table as it is left. -/
def tableWithout (table : Table) : Toml :=
  (settings.sectionWithout omitted table).member.2

/-- The value of a key, unless it is left out of its table. -/
def field? (key : Key) : Option Toml :=
  if omitted (.key key) then none else some (settings.value key).toToml

theorem fields?_tableWithout (table : Table) :
    (settings.tableWithout omitted table).fields? (table.keys.map Key.name) =
      some (table.keys.map (settings.field? omitted)) := by
  have hentries : (settings.sectionWithout omitted table).entries.map
      (fun entry => (entry.1, entry.2.toToml)) =
      (table.keys.filter fun key => !omitted (.key key)).map
        fun key => (key.name, (settings.value key).toToml) := by
    simp [sectionWithout, Function.comp_def]
  rw [tableWithout, Toml.Section.member, hentries, Toml.fields?, List.map_map]
  refine congrArg some (List.map_congr_left fun key hkey => ?_)
  exact lookup_kept (nodup_names.2 table table.mem_all) (fun key => omitted (.key key))
    (fun key => (settings.value key).toToml) hkey

variable {settings omitted}

theorem orStandard_field {α : Type} {read? : Toml → Option α} {key : Key} {own : α}
    (h : read? (settings.value key).toToml = some own) (standard : α) :
    Toml.orStandard standard read? (settings.field? omitted key) =
      some (if omitted (.key key) then standard else own) := by
  unfold field?
  split
  next => rfl
  next => exact h

theorem text_field {key : Key} {own : String} (h : settings.value key = .text own)
    (standard : String) :
    Toml.orStandard standard Toml.text? (settings.field? omitted key) =
      some (if omitted (.key key) then standard else own) :=
  orStandard_field (by rw [h]; rfl) standard

theorem path_field {key : Key} {own : String} (h : settings.value key = .text own)
    (standard : RawText) :
    Toml.orStandard standard (fun found => found.text?.map RawText.ofText)
        (settings.field? omitted key) =
      some (if omitted (.key key) then standard else own) :=
  orStandard_field (by rw [h]; rfl) standard

theorem texts_field {key : Key} {own : List String} (h : settings.value key = .texts own)
    (standard : List String) :
    Toml.orStandard standard Toml.texts? (settings.field? omitted key) =
      some (if omitted (.key key) then standard else own) :=
  orStandard_field (by rw [h]; exact mapM_text? own) standard

theorem whole_field {key : Key} {own : Int64} (h : settings.value key = .whole own)
    (standard : Int64) :
    Toml.orStandard standard Toml.word? (settings.field? omitted key) =
      some (if omitted (.key key) then standard else own) :=
  orStandard_field (by rw [h, Toml.Plain.toToml, Toml.word?, Int64.ofInt_toInt]) standard

theorem flag_field {key : Key} {own : Bool} (h : settings.value key = .flag own)
    (standard : Bool) :
    Toml.orStandard standard Toml.bool? (settings.field? omitted key) =
      some (if omitted (.key key) then standard else own) :=
  orStandard_field (by rw [h]; rfl) standard

variable (settings omitted)

theorem ofToml?_tableWithout :
    let left := settings.without fun key => omitted (.key key)
    GeneralSettings.ofToml? (settings.tableWithout omitted .general) = some left.general ∧
      FileSettings.ofToml? (settings.tableWithout omitted .files) = some left.files ∧
      ProcessSettings.ofToml? (settings.tableWithout omitted .process) = some left.process ∧
      PageSettings.ofToml? (settings.tableWithout omitted .pages) = some left.pages := by
  have hgeneral : (settings.tableWithout omitted .general).fields? ["title"] = _ :=
    settings.fields?_tableWithout omitted .general
  have hfiles : (settings.tableWithout omitted .files).fields?
      ["root", "ignore_dirs", "sql_extensions", "native_extensions"] = _ :=
    settings.fields?_tableWithout omitted .files
  have hprocess : (settings.tableWithout omitted .process).fields?
      ["blind_offset", "parallel"] = _ :=
    settings.fields?_tableWithout omitted .process
  have hpages : (settings.tableWithout omitted .pages).fields? (Page.all.map Page.name) = _ :=
    settings.fields?_tableWithout omitted .pages
  have hpage (page : Page) (standard : Bool) :
      Toml.orStandard standard Toml.bool? (settings.field? omitted (.page page)) = _ :=
    flag_field (rfl : settings.value (.page page) = .flag _) standard
  refine ⟨?_, ?_, ?_, ?_⟩
  · simp only [GeneralSettings.ofToml?, hgeneral, Table.keys, List.map_cons, List.map_nil,
      text_field (rfl : settings.value .title = .text _), Option.bind_eq_bind, Option.bind_some]
    rfl
  · simp only [FileSettings.ofToml?, hfiles, Table.keys, List.map_cons, List.map_nil,
      path_field (rfl : settings.value .root = .text _),
      texts_field (rfl : settings.value .ignoreDirs = .texts _),
      texts_field (rfl : settings.value .sqlExtensions = .texts _),
      texts_field (rfl : settings.value .nativeExtensions = .texts _),
      Option.bind_eq_bind, Option.bind_some]
    rfl
  · simp only [ProcessSettings.ofToml?, hprocess, Table.keys, List.map_cons, List.map_nil,
      whole_field (rfl : settings.value .blindOffset = .whole _),
      flag_field (rfl : settings.value .parallel = .flag _), Option.bind_eq_bind, Option.bind_some]
    rfl
  · rw [PageSettings.ofToml?, hpages]
    simp only [Table.keys, Page.all, List.map_cons, List.map_nil, hpage, Option.bind_eq_bind,
      Option.bind_some]
    rfl

/-- A table that is left out is standard, because all its keys are. -/
theorem without_by_tables :
    let left := settings.without fun key => omitted (.key key)
    let whole := settings.without fun key => (Item.key key).isLeftOut omitted
    (if omitted (.table .general) then standard.general else left.general) = whole.general ∧
      (if omitted (.table .files) then standard.files else left.files) = whole.files ∧
      (if omitted (.table .process) then standard.process else left.process) = whole.process ∧
      (if omitted (.table .pages) then standard.pages else left.pages) = whole.pages := by
  refine ⟨?_, ?_, ?_, ?_⟩
  · cases h : omitted (.table .general) <;> simp [without, Item.isLeftOut, Key.table, h]
  · cases h : omitted (.table .files) <;> simp [without, Item.isLeftOut, Key.table, h]
  · cases h : omitted (.table .process) <;> simp [without, Item.isLeftOut, Key.table, h]
  · cases h : omitted (.table .pages) <;>
      simp [without, Item.isLeftOut, Key.table, h, PageSettings.isEnabled]

theorem ofMembers?_without :
    ofMembers? ((settings.sectionsWithout omitted).map Toml.Section.member) =
      some (settings.without fun key => (Item.key key).isLeftOut omitted) := by
  have hlookup (table : Table) : ((settings.sectionsWithout omitted).map
      Toml.Section.member).lookup table.name =
      if omitted (.table table) then none else some (settings.tableWithout omitted table) := by
    rw [sectionsWithout, List.map_map]
    exact lookup_kept nodup_names.1 (fun table => omitted (.table table)) _ table.mem_all
  have htable {α : Type} {read? : Toml → Option α} {left whole standard : α} (table : Table)
      (hread : read? (settings.tableWithout omitted table) = some left)
      (hwhole : (if omitted (.table table) then standard else left) = whole) :
      Toml.orStandard standard read? (((settings.sectionsWithout omitted).map
        Toml.Section.member).lookup table.name) = some whole := by
    rw [hlookup, ← hwhole]
    split
    next => rfl
    next => exact hread
  obtain ⟨hgeneral, hfiles, hprocess, hpages⟩ := settings.ofToml?_tableWithout omitted
  obtain ⟨hwholeGeneral, hwholeFiles, hwholeProcess, hwholePages⟩ :=
    settings.without_by_tables omitted
  have hgeneral := htable .general hgeneral hwholeGeneral
  have hfiles := htable .files hfiles hwholeFiles
  have hprocess := htable .process hprocess hwholeProcess
  have hpages := htable .pages hpages hwholePages
  simp only [Table.name, standard] at hgeneral hfiles hprocess hpages
  simp only [ofMembers?, hgeneral, hfiles, hprocess, hpages, Option.bind_eq_bind, Option.bind_some]

end

theorem parse_renderWithout (settings : Settings) (omitted : Item → Bool) :
    parse (settings.renderWithout omitted) =
      .ok (settings.without fun key => (Item.key key).isLeftOut omitted) := by
  rw [parse, parse?_renderWithout, Option.bind_some, ofMembers?_without]

theorem load_of_writeFile {tree later : FileTree} {path : RawText} {text : String}
    {settings : Settings}
    (h : tree.writeFile path (Text.encode text) = .ok later) (hparse : parse text = .ok settings) :
    load later path = .ok (some settings) := by
  rw [load, if_pos (FileTree.isPresent_writeFile h), FileTree.readText_writeFile h]
  dsimp only
  rw [hparse]
  rfl

/-- Settings survive being written, whatever their texts hold, if they can be: a root that is no
text cannot. A document from which tables and keys were taken out gives the settings that have what
was left and are standard otherwise. -/
theorem load_written (settings : Settings) :
    settings.renderWithout (fun _ => false) = settings.render ∧
      (∀ omitted, ∃ loaded, parse (settings.renderWithout omitted) = .ok loaded ∧
        loaded.files.root.IsText ∧
        (∀ key, loaded.value key =
          if (Item.key key).isLeftOut omitted then standard.value key else settings.value key) ∧
        ∀ tree path later,
          FileTree.writeFile tree path (Text.encode (settings.renderWithout omitted)) = .ok later →
            load later path = .ok (some loaded)) ∧
      ∀ tree path force later, write tree path settings force = .ok later →
        load later path = .ok (some settings) := by
  have hwhole (hroot : settings.files.root.IsText) : parse settings.render = .ok settings := by
    have hparse := settings.parse_renderWithout fun _ => false
    rw [renderWithout_nothing] at hparse
    rw [hparse]
    refine congrArg Except.ok (eq_of_value (RawText.isText_ofText _) hroot fun key => ?_)
    rw [value_without]
    rfl
  refine ⟨settings.renderWithout_nothing, fun omitted => ?_, ?_⟩
  · refine ⟨_, settings.parse_renderWithout omitted, settings.isText_root_without _,
      settings.value_without _, ?_⟩
    intro tree path later hwrite
    exact load_of_writeFile hwrite (settings.parse_renderWithout omitted)
  · intro tree path force later hwrite
    unfold write at hwrite
    split at hwrite
    next => simp at hwrite
    next =>
      split at hwrite
      next => cases hwrite
      next hsome =>
        have hroot : settings.files.root.IsText := by
          by_contra hnone
          exact hsome (by rw [RawText.text?_eq_none_iff.mpr hnone]; rfl)
        cases hfile : tree.writeFile path (Text.encode settings.render) with
        | error cause => simp [hfile, Except.mapError] at hwrite
        | ok made =>
          rw [hfile] at hwrite
          cases hwrite
          exact load_of_writeFile hfile (hwhole hroot)

/-- Settings whose texts need each form of quotes, with an escape for a control character. -/
def quotedSettings : Settings :=
  { standard with
    general := ⟨"it's a \"title\""⟩
    files := ⟨"C:\\src", ["a", "b\\'c"], [], ["line\nfeed", "\x07"]⟩
    process := ⟨-4, false⟩ }

/-- The document without its first table and without one key of the second. -/
def quotedOmission (item : Item) : Bool :=
  item = .table .general || item = .key .root

theorem load_written_quoted :
    ∃ whole part loaded, write .blank "x.toml" quotedSettings false = .ok whole ∧
      load whole "x.toml" = .ok (some quotedSettings) ∧
      FileTree.writeFile .blank "x.toml"
        (Text.encode (quotedSettings.renderWithout quotedOmission)) = .ok part ∧
      load part "x.toml" = .ok (some loaded) ∧ loaded.value .title = .text "sqlxref" ∧
      loaded.value .root = .text "." ∧
      loaded.value .nativeExtensions = .texts ["line\nfeed", "\x07"] := by
  have htrace : FileTree.blank.trace "x.toml" =
      .vacant ["tmp", "workfolder", "x.toml"] false := by decide +kernel
  have hfile (bytes : List UInt8) : FileTree.blank.writeFile "x.toml" bytes =
      .ok (FileTree.blank.put ["tmp", "workfolder", "x.toml"] (.file (.bytes bytes))) := by
    simp [FileTree.writeFile, htrace]
  have habsent : FileTree.blank.isPresent "x.toml" = false := by
    simp [FileTree.isPresent, FileTree.nodeAt?, htrace]
  have hwrite : write .blank "x.toml" quotedSettings false = .ok (FileTree.blank.put
      ["tmp", "workfolder", "x.toml"] (.file (.bytes (Text.encode quotedSettings.render)))) := by
    rw [write, habsent, hfile]
    rfl
  obtain ⟨_, hpart, hwhole⟩ := quotedSettings.load_written
  obtain ⟨loaded, _, _, hvalue, hload⟩ := hpart quotedOmission
  exact ⟨_, _, loaded, hwrite, hwhole _ _ _ _ hwrite, hfile _, hload _ _ _ (hfile _),
    hvalue .title, hvalue .root, hvalue .nativeExtensions⟩

end CrossRef.Settings
