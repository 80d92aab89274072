import Guildhall.Proofs.Table
import Guildhall.Proofs.Timestamp
import Guildhall.Store.Document

/-!
The written form of a guild's rows. A library that reads every document back which it printed gives
for the tree of a record a node of the same shape (`Tree.reads`). From such a node every record is
decoded as it was (`reads_permissionRule` and its companions): a role that was left out is none, a
time that was written as null is none, and any other time is the same instant at the same offset. So
a guild's rows come back as they were written (`YamlLibrary.decode?_of_encode?`), if each duration
is one that can be read at all, as those of rows that were read are (`YamlLibrary.fits_of_decode?`).
-/

set_option autoImplicit false

namespace Guildhall

/-! ### What trees come back as -/

namespace Yaml

/-- Whether a node is a scalar that stands for a text. -/
def Node.isText (s : String) : Node → Bool
  | .scalar written => written.tag == none && written.text == s &&
      (written.style != .plain || meaning s == .text)
  | _ => false

mutual

/-- Whether a node is what a tree is read as. -/
def Tree.reads : Tree → Node → Bool
  | .text s, n => n.isText s
  | .bare s, .scalar written => written == { style := .plain, text := s }
  | .mapping entries, .mapping none pairs => readsEntries entries pairs
  | _, _ => false

/-- Whether pairs are what the entries of a mapping are read as. -/
def readsEntries : List (String × Tree) → List (Node × Node) → Bool
  | [], [] => true
  | (key, t) :: entries, (k, v) :: pairs =>
    k.isText key && t.reads v && readsEntries entries pairs
  | _, _ => false

end

theorem Node.eq_of_isText {s : String} {n : Node} (hn : n.isText s = true) :
    ∃ style, n = .scalar { style, text := s } ∧ (style ≠ .plain ∨ meaning s = .text) := by
  rcases n with ⟨tag, style, text⟩ | _ | _ | _
  · simp only [isText, Bool.and_eq_true, Bool.or_eq_true, beq_iff_eq, bne_iff_ne] at hn
    obtain ⟨⟨rfl, rfl⟩, hstyle⟩ := hn
    exact ⟨style, rfl, hstyle⟩
  all_goals cases hn

theorem eq_of_reads_bare {s : String} {n : Node} (hn : (Tree.bare s).reads n = true) :
    n = .scalar { style := .plain, text := s } := by
  rcases n with written | _ | _ | _
  · exact congrArg Node.scalar (beq_iff_eq.mp hn)
  all_goals cases hn

theorem forall₂_of_readsEntries {entries : List (String × Tree)} {pairs : List (Node × Node)}
    (hreads : readsEntries entries pairs = true) :
    List.Forall₂ (fun e p ↦ p.1.isText e.1 = true ∧ e.2.reads p.2 = true) entries pairs := by
  induction entries generalizing pairs with
  | nil =>
    cases pairs with
    | nil => exact .nil
    | cons => cases hreads
  | cons e entries ih =>
    cases pairs with
    | nil => cases hreads
    | cons p pairs =>
      simp only [readsEntries, Bool.and_eq_true] at hreads
      exact .cons hreads.1 (ih hreads.2)

theorem pairs_of_reads {entries : List (String × Tree)} {n : Node}
    (hn : (Tree.mapping entries).reads n = true) :
    ∃ pairs, n = .mapping none pairs ∧
      List.Forall₂ (fun e p ↦ p.1.isText e.1 = true ∧ e.2.reads p.2 = true) entries pairs := by
  rcases n with _ | _ | ⟨_ | _, pairs⟩ | _
  case mapping.none => exact ⟨pairs, rfl, forall₂_of_readsEntries hn⟩
  all_goals cases hn

/-! ### Values -/

namespace Decode

theorem text_of_isText {s : String} {n : Node} (hn : n.isText s = true) : text n = pure s := by
  obtain ⟨style, rfl, -⟩ := Node.eq_of_isText hn
  rfl

theorem variant_of_isText {s : String} {n : Node} (hn : n.isText s = true) :
    variant n = pure s := by
  obtain ⟨style, rfl, -⟩ := Node.eq_of_isText hn
  rfl

theorem untypedText_of_isText {s : String} {n : Node} (hn : n.isText s = true) :
    untypedText n = pure s := by
  obtain ⟨style, rfl, hstyle⟩ := Node.eq_of_isText hn
  have htext : untypedText (.scalar { style, text := s }) =
      if style = .plain && meaning s ≠ .text then failure else pure s := rfl
  rw [htext, if_neg]
  simpa [imp_iff_not_or] using hstyle

theorem natural_of_reads {bound k : Nat} (hlt : k < bound) {n : Node}
    (hn : (natTree k).reads n = true) : natural bound n = pure k := by
  obtain rfl := eq_of_reads_bare hn
  have hdigits : natural bound (.scalar { style := .plain, text := toString k }) =
      ofOption (natural? bound (toString k).toList) := rfl
  rw [hdigits, natural?_toString hlt, ofOption]

theorem word_of_reads {id : Id} {n : Node} (hn : (idTree id).reads n = true) :
    word n = pure id := by
  rw [word, natural_of_reads id.toNat_lt hn, pure_bind, UInt64.ofNat_toNat]

/-! ### Records -/

variable {α β : Type}

theorem mapM_of_forall₂ {γ : Type} {f : γ → Decode α} {l : List γ} {values : List α}
    (hf : List.Forall₂ (fun c a ↦ f c = pure a) l values) : l.mapM f = pure values := by
  induction hf with
  | nil => rfl
  | cons hfirst _ ih => rw [List.mapM_cons, hfirst, pure_bind, ih, pure_bind]

/-- The fields that the entries of a mapping are read as. -/
def Fields.Read (entries : List (String × Tree)) (fs : Fields) : Prop :=
  List.Forall₂ (fun e f ↦ f.1 = e.1 ∧ e.2.reads f.2 = true) entries fs

theorem Fields.Read.names {entries : List (String × Tree)} {fs : Fields} (hfs : Read entries fs) :
    fs.map (·.1) = entries.map (·.1) := by
  induction hfs with
  | nil => rfl
  | cons hfirst _ ih => rw [List.map_cons, List.map_cons, hfirst.1, ih]

theorem Fields.Read.lookup {entries : List (String × Tree)} {fs : Fields} (hfs : Read entries fs)
    (name : String) :
    Option.Rel (fun t v ↦ t.reads v = true) (entries.lookup name) (fs.lookup name) := by
  induction hfs with
  | nil => exact .none
  | @cons e f _ _ hfirst _ ih =>
    rw [List.lookup_cons, List.lookup_cons, hfirst.1]
    cases name == e.1 with
    | true => exact .some hfirst.2
    | false => exact ih

/-- A record is read as its fields, each once. -/
theorem fields_of_reads (names : List String) {entries : List (String × Tree)} {n : Node}
    (hn : (Tree.mapping entries).reads n = true) (hnodup : (entries.map (·.1)).Nodup) :
    ∃ fs, fields names n = pure fs ∧ Fields.Read entries fs := by
  obtain ⟨written, rfl, hwritten⟩ := pairs_of_reads hn
  obtain ⟨fs, hmap, hfs⟩ : ∃ fs : Fields,
      List.Forall₂ (fun p f ↦ (do return (← text p.1, p.2) : Decode (String × Node)) = pure f)
        written fs ∧ Fields.Read entries fs := by
    clear hn hnodup
    induction hwritten with
    | nil => exact ⟨[], .nil, .nil⟩
    | @cons e p _ _ hfirst _ ih =>
      obtain ⟨fs, hmap, hfs⟩ := ih
      refine ⟨(e.1, p.2) :: fs, .cons ?_ hmap, .cons ⟨rfl, hfirst.2⟩ hfs⟩
      rw [text_of_isText hfirst.1, pure_bind]
  have hpairs : pairs (.mapping none written) = pure written := rfl
  have hknown : ((fs.filter fun f ↦ names.contains f.1).map (·.1)).Nodup :=
    (hfs.names ▸ hnodup).sublist (List.filter_sublist.map _)
  refine ⟨fs, ?_, hfs⟩
  rw [fields, hpairs, pure_bind, mapM_of_forall₂ hmap, pure_bind, if_pos hknown]

variable {entries : List (String × Tree)} {fs : Fields} {name : String} {f : Node → Decode α}
  {a : α}

theorem need_of_reads (hfs : Fields.Read entries fs) {t : Tree}
    (hentry : entries.lookup name = some t) (hf : ∀ v, t.reads v = true → f v = pure a) :
    fs.need name f = pure a := by
  have hlookup := hfs.lookup name
  rw [hentry] at hlookup
  rw [Fields.need]
  cases hfield : fs.lookup name with
  | none =>
    rw [hfield] at hlookup
    cases hlookup
  | some v =>
    rw [hfield] at hlookup
    cases hlookup with
    | some hv => exact hf v hv

theorem getD_of_reads (hfs : Fields.Read entries fs) {t : Tree} {fallback : α}
    (hentry : entries.lookup name = some t) (hf : ∀ v, t.reads v = true → f v = pure a) :
    fs.getD name f fallback = pure a := by
  have hneed := need_of_reads hfs hentry hf
  rw [Fields.need] at hneed
  rw [Fields.getD]
  cases hfield : fs.lookup name with
  | none =>
    have hlookup := hfs.lookup name
    rw [hentry, hfield] at hlookup
    cases hlookup
  | some v => simpa [hfield] using hneed

theorem getD_of_missing (hfs : Fields.Read entries fs) {fallback : α}
    (hentry : entries.lookup name = none) : fs.getD name f fallback = pure fallback := by
  have hlookup := hfs.lookup name
  rw [hentry] at hlookup
  rw [Fields.getD]
  cases hfield : fs.lookup name with
  | none => rfl
  | some v =>
    rw [hfield] at hlookup
    cases hlookup

theorem isAbsent_of_tagless (style : Style) (s : String) :
    isAbsent (.scalar { style, text := s }) =
      if style ≠ .plain then pure false else pure (s.isEmpty || isNull s) := rfl

theorem optional_of_present {written : Scalar} (habsent : isAbsent (.scalar written) = pure false)
    (hf : f (.scalar written) = pure a) : optional f (.scalar written) = pure (some a) := by
  have hfollow : follow (.scalar written) = pure (.scalar written) := rfl
  rw [optional, hfollow, pure_bind, habsent, pure_bind, if_neg Bool.false_ne_true, hf, map_pure]

/-- A text that is written is not taken for a value that was left out. -/
theorem optional_of_isText {s : String} {n : Node} (hn : n.isText s = true) (hf : f n = pure a) :
    optional f n = pure (some a) := by
  obtain ⟨style, rfl, hstyle⟩ := Node.eq_of_isText hn
  refine optional_of_present ?_ hf
  rw [isAbsent_of_tagless]
  by_cases hplain : style = .plain
  · have hmeaning := hstyle.resolve_left (not_not_intro hplain)
    have hpresent : (s.isEmpty || isNull s) = false := by
      by_contra habsent
      rw [meaning, if_pos (Bool.not_eq_false _ ▸ habsent)] at hmeaning
      cases hmeaning
    rw [if_neg (not_not_intro hplain), hpresent]
  · rw [if_pos hplain]

theorem optional_of_natTree {k : Nat} {n : Node} (hn : (natTree k).reads n = true)
    (hf : f n = pure a) : optional f n = pure (some a) := by
  obtain rfl := eq_of_reads_bare hn
  refine optional_of_present ?_ hf
  rw [isAbsent_of_tagless, if_neg (not_not_intro rfl), isAbsent_toString]

theorem optional_of_null {n : Node} (hn : (Tree.bare "null").reads n = true) :
    optional f n = pure none := by
  obtain rfl := eq_of_reads_bare hn
  rfl

end Decode

end Yaml

/-! ### Rows -/

open Yaml Decode

/-- The seconds of a duration fit 64 bits. -/
def Duration.Fits (d : Duration) : Prop := d.seconds < UInt64.size

theorem Duration.ofParts_parts (d : Duration) : ofParts d.seconds d.subsecond = d := by
  rw [ofParts, seconds, subsecond, Nat.mul_comm, Nat.div_add_mod]

theorem Duration.decode_of_reads {d : Duration} (hd : d.Fits) {n : Node}
    (hn : (Tree.mapping [("secs", natTree d.seconds), ("nanos", natTree d.subsecond)]).reads n =
      true) : Duration.decode n = pure d := by
  obtain ⟨fs, hfields, hfs⟩ := fields_of_reads ["secs", "nanos"] hn (by simp)
  have hseconds : fs.need "secs" (natural UInt64.size) = pure d.seconds :=
    need_of_reads hfs rfl fun v hv ↦ natural_of_reads hd hv
  have hsubsecond : fs.need "nanos" (natural UInt32.size) = pure d.subsecond := by
    refine need_of_reads hfs rfl fun v hv ↦ natural_of_reads ?_ hv
    exact (Nat.mod_lt _ (by decide)).trans (by decide)
  have hnames : fs.all (fun f ↦ f.1 == "secs" || f.1 == "nanos") = true := by
    have hall : (fs.map (·.1)).all (fun name ↦ name == "secs" || name == "nanos") = true := by
      rw [hfs.names]
      rfl
    rwa [List.all_map] at hall
  rw [Duration.decode, hfields, pure_bind, if_pos hnames, hseconds, pure_bind, hsubsecond,
    pure_bind, Duration.ofParts_parts]
  exact if_pos hd

theorem Timestamp.decode_of_reads {t : Timestamp} {s : String} (hformat : t.format? = some s)
    {n : Node} (hn : n.isText s = true) : Timestamp.decode n = pure t := by
  rw [Timestamp.decode, untypedText_of_isText hn, pure_bind, Timestamp.parse?_of_format? hformat,
    ofOption]

/-- Whether a row that was written is read back from every node that its tree is read as. -/
def ComesBack {V : Type} [Written V] (row : V) : Prop :=
  ∀ t n, Written.tree? row = some t → t.reads n = true → Written.decode n = pure row

theorem comesBack_permissionRule (rule : PermissionRule) : ComesBack rule := by
  intro t n htree hn
  have hrank : ∀ v, v.isText rule.rank.name = true →
      (do ofOption (Rank.ofName? (← variant v)) : Decode Rank) = pure rule.rank := fun v hv ↦ by
    rw [variant_of_isText hv, pure_bind, Rank.ofName?_name, ofOption]
  suffices hfields : ∃ fs, fields ["action", "required_rank", "required_role_id"] n = pure fs ∧
      fs.need "action" text = pure rule.action ∧
      fs.need "required_rank" (fun n ↦ do ofOption (Rank.ofName? (← variant n))) =
        pure rule.rank ∧
      fs.getD "required_role_id" (optional word) none = pure rule.role by
    obtain ⟨fs, hfields, haction, hrank, hrole⟩ := hfields
    simp only [Written.decode, hfields, haction, hrank, hrole, pure_bind]
  obtain rfl := Option.some.inj htree
  cases hrole : rule.role with
  | none =>
    rw [hrole] at hn
    obtain ⟨fs, hfields, hfs⟩ := fields_of_reads _ hn (by simp)
    exact ⟨fs, hfields, need_of_reads hfs rfl fun v ↦ text_of_isText,
      need_of_reads hfs rfl hrank, getD_of_missing hfs rfl⟩
  | some role =>
    rw [hrole] at hn
    obtain ⟨fs, hfields, hfs⟩ := fields_of_reads _ hn (by simp)
    exact ⟨fs, hfields, need_of_reads hfs rfl fun v ↦ text_of_isText,
      need_of_reads hfs rfl hrank,
      getD_of_reads hfs rfl fun v hv ↦ optional_of_natTree hv (word_of_reads hv)⟩

/-- The tree of the time of the last activation. -/
def lastTree? : Option Timestamp → Option Tree
  | some t => t.format?.map .text
  | none => some (.bare "null")

theorem tree?_cooldownRule (rule : CooldownRule) :
    Written.tree? rule = (lastTree? rule.last).bind fun last ↦
      some (.mapping [("action", .text rule.action),
        ("duration", .mapping [("secs", natTree rule.duration.seconds),
          ("nanos", natTree rule.duration.subsecond)]),
        ("last_activation", last)]) := by
  obtain ⟨action, duration, last⟩ := rule
  cases last <;> rfl

theorem optional_of_lastTree? {last : Option Timestamp} {t : Yaml.Tree}
    (htree : lastTree? last = some t) {n : Node} (hn : t.reads n = true) :
    optional Timestamp.decode n = pure last := by
  cases last with
  | none =>
    obtain rfl := Option.some.inj htree
    exact optional_of_null hn
  | some stamp =>
    obtain ⟨s, hformat, rfl⟩ := Option.map_eq_some_iff.mp htree
    exact optional_of_isText hn (Timestamp.decode_of_reads hformat hn)

theorem comesBack_cooldownRule {rule : CooldownRule} (hrule : rule.duration.Fits) :
    ComesBack rule := by
  intro t n htree hn
  rw [tree?_cooldownRule] at htree
  obtain ⟨last, hlast, hmapping⟩ := Option.bind_eq_some_iff.mp htree
  obtain rfl := Option.some.inj hmapping
  obtain ⟨fs, hfields, hfs⟩ :=
    fields_of_reads ["action", "duration", "last_activation"] hn (by simp)
  have haction : fs.need "action" text = pure rule.action :=
    need_of_reads hfs rfl fun v ↦ text_of_isText
  have hduration : fs.need "duration" Duration.decode = pure rule.duration :=
    need_of_reads hfs rfl fun v ↦ Duration.decode_of_reads hrule
  have hactivation : fs.getD "last_activation" (optional Timestamp.decode) none =
      pure rule.last :=
    getD_of_reads hfs rfl fun v ↦ optional_of_lastTree? hlast
  simp only [Written.decode, hfields, haction, hduration, hactivation, pure_bind]

theorem comesBack_customCommand (command : CustomCommand) : ComesBack command := by
  intro t n htree hn
  obtain rfl := Option.some.inj htree
  obtain ⟨fs, hfields, hfs⟩ := fields_of_reads ["name", "template", "owner_id"] hn (by simp)
  have hname : fs.need "name" text = pure command.name :=
    need_of_reads hfs rfl fun v ↦ text_of_isText
  have htemplate : fs.need "template" text = pure command.template :=
    need_of_reads hfs rfl fun v ↦ text_of_isText
  have howner : fs.need "owner_id" word = pure command.owner :=
    need_of_reads hfs rfl fun v ↦ word_of_reads
  simp only [Written.decode, hfields, hname, htemplate, howner, pure_bind]

theorem comesBack_keyword (keyword : Keyword) : ComesBack keyword := by
  intro t n htree hn
  obtain rfl := Option.some.inj htree
  obtain ⟨fs, hfields, hfs⟩ :=
    fields_of_reads ["name", "pattern", "template", "owner_id"] hn (by simp)
  have hname : fs.need "name" text = pure keyword.name :=
    need_of_reads hfs rfl fun v ↦ text_of_isText
  have hpattern : fs.need "pattern" text = pure keyword.pattern :=
    need_of_reads hfs rfl fun v ↦ text_of_isText
  have htemplate : fs.need "template" text = pure keyword.template :=
    need_of_reads hfs rfl fun v ↦ text_of_isText
  have howner : fs.need "owner_id" word = pure keyword.owner :=
    need_of_reads hfs rfl fun v ↦ word_of_reads
  simp only [Written.decode, hfields, hname, hpattern, htemplate, howner, pure_bind]

/-! ### The rows of a guild -/

theorem forall₂_of_mapM {α β : Type} {f : α → Option β} {l : List α} {values : List β}
    (hl : l.mapM f = some values) : List.Forall₂ (fun a b ↦ f a = some b) l values := by
  induction l generalizing values with
  | nil =>
    obtain rfl := Option.some.inj hl
    exact .nil
  | cons a l ih =>
    rw [List.mapM_cons] at hl
    obtain ⟨b, hb, hrest⟩ := Option.bind_eq_some_iff.mp hl
    obtain ⟨bs, hbs, hvalues⟩ := Option.bind_eq_some_iff.mp hrest
    obtain rfl := Option.some.inj hvalues
    exact .cons hb (ih hbs)

/-- The pairs of a collection are read as the entries of its tree were made of them. -/
theorem read_pairs {V : Type} [Written V] {l : List (String × V)} (hrows : ∀ e ∈ l, ComesBack e.2)
    {entries : List (String × Yaml.Tree)} {written : List (Node × Node)}
    (hentries : List.Forall₂ (fun e t ↦ (Written.tree? e.2).map (e.1, ·) = some t) l entries)
    (hwritten : List.Forall₂ (fun e p ↦ p.1.isText e.1 = true ∧ e.2.reads p.2 = true) entries
      written) :
    List.Forall₂ (fun p e ↦
      (do return (← text p.1, ← Written.decode p.2) : Decode (String × V)) = pure e) written l := by
  induction hentries generalizing written with
  | nil =>
    cases hwritten
    exact .nil
  | cons hentry _ ih =>
    obtain ⟨t, htree, rfl⟩ := Option.map_eq_some_iff.mp hentry
    obtain ⟨hrow, hrows⟩ := List.forall_mem_cons.mp hrows
    cases hwritten with
    | cons hread hrest =>
      refine .cons ?_ (ih hrows hrest)
      rw [text_of_isText hread.1, pure_bind, hrow t _ htree hread.2, pure_bind]

/-- The rows of a collection come back, in their order and under their keys. -/
theorem table_of_reads {V : Type} [Written V] {rows : Rows V}
    (hrows : ∀ e ∈ rows.entries, ComesBack e.2) {t : Yaml.Tree}
    (htree : RowFormat.rowsTree? rows = some t) {n : Node} (hn : t.reads n = true) :
    Decode.table text Written.decode n = pure rows := by
  obtain ⟨entries, hentries, rfl⟩ := Option.map_eq_some_iff.mp htree
  obtain ⟨written, rfl, hwritten⟩ := pairs_of_reads hn
  have hpairs : pairs (.mapping none written) = pure written := rfl
  have hdecode := mapM_of_forall₂ (read_pairs hrows (forall₂_of_mapM hentries) hwritten)
  rw [Decode.table, hpairs, pure_bind, hdecode, pure_bind, Table.ofList_entries]

/-- The durations of a guild's cooldown rules fit 64 bits of seconds. -/
def GuildRows.Fits (rows : GuildTables) : Prop :=
  ∀ e ∈ rows.cooldowns.entries, e.2.duration.Fits

/-- The entries of the mapping that a guild's rows are written as. -/
def RowFormat.document? (rows : GuildTables) : Option (List (String × Yaml.Tree)) := do
  return [
    ("permissions", ← rowsTree? rows.permissions),
    ("cooldowns", ← rowsTree? rows.cooldowns),
    ("commands", ← rowsTree? rows.commands),
    ("keywords", ← rowsTree? rows.keywords)]

/-- A guild's rows come back, if each duration is one that can be read. -/
theorem decodeTables_of_reads {rows : GuildTables} (hrows : rows.Fits)
    {entries : List (String × Yaml.Tree)} (hdocument : RowFormat.document? rows = some entries)
    {n : Node} (hn : (Yaml.Tree.mapping entries).reads n = true) :
    RowFormat.decodeTables n = pure rows := by
  obtain ⟨permissions, hpermissions, hdocument⟩ := Option.bind_eq_some_iff.mp hdocument
  obtain ⟨cooldowns, hcooldowns, hdocument⟩ := Option.bind_eq_some_iff.mp hdocument
  obtain ⟨commands, hcommands, hdocument⟩ := Option.bind_eq_some_iff.mp hdocument
  obtain ⟨keywords, hkeywords, hdocument⟩ := Option.bind_eq_some_iff.mp hdocument
  obtain rfl := Option.some.inj hdocument
  obtain ⟨fs, hfields, hfs⟩ := fields_of_reads (Collection.all.map (·.name)) hn (by simp)
  have h₁ : fs.getD "permissions" (table text Written.decode) ∅ = pure rows.permissions :=
    getD_of_reads hfs rfl fun v ↦
      table_of_reads (fun e _ ↦ comesBack_permissionRule e.2) hpermissions
  have h₂ : fs.getD "cooldowns" (table text Written.decode) ∅ = pure rows.cooldowns :=
    getD_of_reads hfs rfl fun v ↦
      table_of_reads (fun e he ↦ comesBack_cooldownRule (hrows e he)) hcooldowns
  have h₃ : fs.getD "commands" (table text Written.decode) ∅ = pure rows.commands :=
    getD_of_reads hfs rfl fun v ↦ table_of_reads (fun e _ ↦ comesBack_customCommand e.2) hcommands
  have h₄ : fs.getD "keywords" (table text Written.decode) ∅ = pure rows.keywords :=
    getD_of_reads hfs rfl fun v ↦ table_of_reads (fun e _ ↦ comesBack_keyword e.2) hkeywords
  simp only [RowFormat.decodeTables, hfields, h₁, h₂, h₃, h₄, pure_bind]

/-! ### Rows that were read -/

/-- Every value that a decoder gives has a property. -/
def Yaml.Decode.Ensures {α : Type} (p : α → Prop) (f : Decode α) : Prop :=
  ∀ named left a left', f named left = some (a, left') → p a

section Ensures

variable {α β : Type} {p : α → Prop} {q : β → Prop} {f : Decode α}

theorem ensures_pure {a : α} (ha : p a) : Ensures p (pure a : Decode α) := by
  intro named left b left' h
  obtain ⟨rfl, rfl⟩ := Prod.mk.inj (Option.some.inj h)
  exact ha

theorem ensures_failure : Ensures p (failure : Decode α) := fun _ _ _ _ h ↦ by cases h

theorem ensures_true : Ensures (fun _ ↦ True) f := fun _ _ _ _ _ ↦ trivial

theorem ensures_bind (hf : Ensures p f) {g : α → Decode β} (hg : ∀ a, p a → Ensures q (g a)) :
    Ensures q (f >>= g) := by
  intro named left b left' h
  obtain ⟨⟨a, left₁⟩, hfirst, hrest⟩ := Option.bind_eq_some_iff.mp h
  exact hg a (hf named left a left₁ hfirst) named left₁ b left' hrest

theorem ensures_need {g : Node → Decode α} (hg : ∀ v, Ensures p (g v)) (fs : Fields)
    (name : String) : Ensures p (fs.need name g) := by
  rw [Fields.need]
  cases fs.lookup name with
  | none => exact ensures_failure
  | some v => exact hg v

theorem ensures_getD {g : Node → Decode α} (hg : ∀ v, Ensures p (g v)) (fs : Fields)
    (name : String) {fallback : α} (hfallback : p fallback) :
    Ensures p (fs.getD name g fallback) := by
  rw [Fields.getD]
  cases fs.lookup name with
  | none => exact ensures_pure hfallback
  | some v => exact hg v

theorem ensures_mapM {γ : Type} {g : γ → Decode α} (hg : ∀ c, Ensures p (g c)) (l : List γ) :
    Ensures (fun values ↦ ∀ a ∈ values, p a) (l.mapM g) := by
  induction l with
  | nil => exact ensures_pure fun _ ha ↦ by cases ha
  | cons c l ih =>
    rw [List.mapM_cons]
    exact ensures_bind (hg c) fun a ha ↦ ensures_bind ih fun values hvalues ↦
      ensures_pure (List.forall_mem_cons.mpr ⟨ha, hvalues⟩)

theorem ensures_table {g : Node → Decode α} (hg : ∀ v, Ensures p (g v)) (n : Node) :
    Ensures (fun rows : Table String α ↦ ∀ e ∈ rows.entries, p e.2) (Decode.table text g n) := by
  refine ensures_bind ensures_true fun written _ ↦ ensures_bind (p := fun l ↦ ∀ e ∈ l, p e.2)
    (ensures_mapM (fun c ↦ ?_) written) fun l hl ↦ ensures_pure fun e he ↦
      hl e (Table.mem_of_mem_ofList he)
  exact ensures_bind ensures_true fun key _ ↦ ensures_bind (hg c.2) fun a ha ↦ ensures_pure ha

end Ensures

theorem ensures_duration (n : Node) : Ensures Duration.Fits (Duration.decode n) := by
  refine ensures_bind ensures_true fun fs _ ↦ ?_
  split_ifs
  · refine ensures_bind ensures_true fun seconds _ ↦ ensures_bind ensures_true fun nanos _ ↦ ?_
    dsimp only
    split_ifs with hlt
    · exact ensures_pure hlt
    · exact ensures_failure
  · exact ensures_failure

theorem ensures_cooldownRule (n : Node) :
    Ensures (fun rule : CooldownRule ↦ rule.duration.Fits) (Written.decode n) :=
  ensures_bind ensures_true fun fs _ ↦ ensures_bind ensures_true fun _ _ ↦
    ensures_bind (ensures_need ensures_duration fs "duration") fun _ hduration ↦
      ensures_bind ensures_true fun _ _ ↦ ensures_pure hduration

theorem ensures_decodeTables (n : Node) : Ensures GuildRows.Fits (RowFormat.decodeTables n) :=
  ensures_bind ensures_true fun fs _ ↦ ensures_bind ensures_true fun permissions _ ↦
    ensures_bind (ensures_getD (ensures_table ensures_cooldownRule) fs "cooldowns"
      fun _ he ↦ by cases he) fun cooldowns hcooldowns ↦
        ensures_bind ensures_true fun commands _ ↦
          ensures_bind ensures_true fun keywords _ ↦ ensures_pure hcooldowns

/-! ### Libraries -/

/-- Rows come back from a format as they were written, and rows that were read can be written. -/
structure RowFormat.Faithful (fmt : RowFormat) : Prop where
  decode?_of_encode? : ∀ {rows text}, rows.Fits → fmt.encode? rows = some text →
    fmt.decode? text = some rows
  fits_of_decode? : ∀ {text rows}, fmt.decode? text = some rows → rows.Fits

/-- A library that prints a mapping as a document and parses documents. -/
structure YamlLibrary where
  print? : List (String × Yaml.Tree) → Option String
  parse? : String → Option Document

namespace YamlLibrary

variable (lib : YamlLibrary)

/-- The format of a guild's rows that a library writes and reads. -/
def format : RowFormat where
  encode? rows := (RowFormat.document? rows).bind lib.print?
  decode? s := (lib.parse? s).bind (run RowFormat.decodeTables)

/-- The printer and the reader of this library. -/
def own : YamlLibrary where
  print? entries := some (Yaml.Tree.print entries)
  parse? s := Document.ofText? s.toList

theorem format_own : own.format = .yaml := by
  have hencode : own.format.encode? = RowFormat.yaml.encode? := funext fun rows ↦ by
    simp only [format, own, RowFormat.document?, RowFormat.yaml, RowFormat.encodeYaml?,
      Option.bind_eq_bind, Option.bind_assoc, Option.pure_def, Option.bind_some]
  rw [RowFormat.mk.injEq]
  exact ⟨hencode, rfl⟩

/-- Whether a library reads every document back that it printed for a guild's rows: as the mapping
that was printed. -/
def ReadsBack : Prop :=
  ∀ rows entries text, RowFormat.document? rows = some entries → lib.print? entries = some text →
    ∃ d n, lib.parse? text = some d ∧ d.root = some n ∧ (Yaml.Tree.mapping entries).reads n = true

variable {lib}

/-- A guild's rows come back as they were written. -/
theorem decode?_of_encode? (hlib : lib.ReadsBack) {rows : GuildTables} (hrows : rows.Fits)
    {text : String} (hencode : lib.format.encode? rows = some text) :
    lib.format.decode? text = some rows := by
  obtain ⟨entries, hdocument, hprint⟩ := Option.bind_eq_some_iff.mp hencode
  obtain ⟨d, n, hparse, hroot, hreads⟩ := hlib rows entries text hdocument hprint
  have hdecode := decodeTables_of_reads hrows hdocument hreads
  refine Option.bind_eq_some_iff.mpr ⟨d, hparse, ?_⟩
  rw [run, hroot, Option.getD_some, hdecode]
  rfl

/-- The durations of rows that were read can be read again. -/
theorem fits_of_decode? {text : String} {rows : GuildTables}
    (hdecode : lib.format.decode? text = some rows) : rows.Fits := by
  obtain ⟨d, -, hrun⟩ := Option.bind_eq_some_iff.mp hdecode
  obtain ⟨⟨rows', left⟩, hrows, rfl⟩ := Option.map_eq_some_iff.mp hrun
  exact ensures_decodeTables _ _ _ _ _ hrows

theorem faithful_format (hlib : lib.ReadsBack) : lib.format.Faithful :=
  ⟨fun hrows hencode ↦ decode?_of_encode? hlib hrows hencode, fits_of_decode?⟩

/-- The printer and the reader of this library, but that a document is printed only if it comes
back. -/
def checked : YamlLibrary where
  print? entries :=
    let text := Yaml.Tree.print entries
    if ((Document.ofText? text.toList).bind (·.root)).any ((Yaml.Tree.mapping entries).reads ·) then
      some text
    else none
  parse? s := Document.ofText? s.toList

theorem readsBack_checked : checked.ReadsBack := by
  intro rows entries text _ hprint
  simp only [checked] at hprint ⊢
  split_ifs at hprint with hback
  obtain rfl := Option.some.inj hprint
  obtain ⟨n, hroot, hreads⟩ := (Option.any_eq_true _ _).mp hback
  obtain ⟨d, hparse, hroot⟩ := Option.bind_eq_some_iff.mp hroot
  exact ⟨d, n, hparse, hroot, hreads⟩

end YamlLibrary

end Guildhall
