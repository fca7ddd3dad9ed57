import Mathlib.Data.List.Nodup
import CodeRepair.Proofs.Toml.Value

/-!
# Documents of plain tables

A document that is a row of tables, each with its own header and a line for each of its entries, is
read as these tables in their order.  The names of the tables and the keys of a table are bare and
differ from each other, and every line ends with a value that is read back from it.
-/

namespace CodeRepair.Toml

/-- A line of a table, with the value that is written at its end. -/
structure Line where
  key : Text
  written : Text
  value : Toml

/-- A table with a header. -/
structure Block where
  name : Text
  lines : List Line

/-- A key that needs no marks. -/
def IsBareKey (key : Text) : Prop :=
  key ≠ [] ∧ ∀ c ∈ key, isBare c = true

instance (key : Text) : Decidable (IsBareKey key) :=
  decidable_of_iff (key ≠ [] ∧ key.all isBare = true) (by simp [IsBareKey])

namespace Line

/-- The line as it is written. -/
def write (line : Line) : Text :=
  line.key ++ " = ".toList ++ line.written ++ ['\n']

/-- What a table has from the line. -/
def entry (line : Line) : Text × Toml :=
  (line.key, line.value)

/-- What the line says. -/
def statement (line : Line) : Statement :=
  .entry [line.key] line.value

/-- The line is read back. -/
structure IsReadable (line : Line) : Prop where
  key : IsBareKey line.key
  value : EndsLine line.written line.value

end Line

namespace Block

/-- The header and the lines of the table, with a blank line at the end. -/
def write (block : Block) : Text :=
  '[' :: block.name ++ "]\n".toList ++ block.lines.flatMap Line.write ++ ['\n']

/-- What a document has from the table. -/
def entry (block : Block) : Text × Toml :=
  (block.name, .table (block.lines.map Line.entry))

/-- What the header and the lines say. -/
def statements (block : Block) : List Statement :=
  .header [block.name] :: block.lines.map Line.statement

/-- The table is read back, since no key is repeated in it. -/
structure IsReadable (block : Block) : Prop where
  name : IsBareKey block.name
  lines : ∀ line ∈ block.lines, line.IsReadable
  distinct : (block.lines.map Line.key).Nodup

end Block

/-! ## Entries -/

section

variable {entries : Entries} {key : Text} {value : Toml}

theorem mem_of_find? (h : find? key entries = some value) :
    (key, value) ∈ entries := by
  obtain ⟨⟨found, _⟩, hfound, rfl⟩ := Option.map_eq_some_iff.1 h
  obtain rfl : found = key := beq_iff_eq.1 (List.find?_some hfound :)
  exact List.mem_of_find?_eq_some hfound

theorem isSome_find? (h : (key, value) ∈ entries) :
    (find? key entries).isSome = true := by
  rw [find?, Option.isSome_map, List.find?_isSome]
  exact ⟨_, h, beq_self_eq_true key⟩

theorem find?_of_mem (hdistinct : (entries.map Prod.fst).Nodup)
    (h : (key, value) ∈ entries) : find? key entries = some value := by
  obtain ⟨found, hfound⟩ := Option.isSome_iff_exists.1 (isSome_find? h)
  have hinj := List.inj_on_of_nodup_map hdistinct (mem_of_find? hfound) h rfl
  rw [hfound, (Prod.mk.inj hinj).2]

theorem entriesBounded_of_forall (h : ∀ entry ∈ entries, entry.2.isBounded = true) :
    entriesBounded entries = true := by
  induction entries with
  | nil => rfl
  | cons entry entries ih =>
    rw [List.forall_mem_cons] at h
    rw [entriesBounded, h.1, ih h.2, Bool.and_true]

end

theorem ne_of_isBare {c mark : Char} (h : isBare c = true) (hmark : isBare mark = false) :
    c ≠ mark := by
  rintro rfl
  rw [h] at hmark
  cases hmark

theorem isSpace_of_isBare {c : Char} (h : isBare c = true) : isSpace c = false := by
  have hspace : c ≠ ' ' := ne_of_isBare h (by decide)
  have htab : c ≠ '\t' := ne_of_isBare h (by decide)
  simp [isSpace, hspace, htab]

section

variable {key rest : Text}

theorem IsBareKey.exists_cons (h : IsBareKey key) :
    ∃ c text, key = c :: text ∧ isBare c = true := by
  obtain ⟨c, text, rfl⟩ := List.exists_cons_of_ne_nil h.1
  exact ⟨c, text, rfl, h.2 c List.mem_cons_self⟩

theorem IsBareKey.readPart? (h : IsBareKey key) (hrest : ∀ c ∈ rest.head?, isBare c = false) :
    readPart? (key ++ rest) = some (key, rest) := by
  have htake : (key ++ rest).takeWhile isBare = key := by
    rw [List.takeWhile_append_of_pos h.2]
    cases rest with
    | nil => simp
    | cons c rest => simp [hrest c rfl]
  have hdrop : (key ++ rest).dropWhile isBare = rest := by
    rw [List.dropWhile_append_of_pos h.2]
    cases rest with
    | nil => rfl
    | cons c rest => simp [hrest c rfl]
  have hline : readLine? (key ++ rest) = none := by
    obtain ⟨c, text, rfl, hc⟩ := h.exists_cons
    unfold readLine?
    split
    · next heq => exact absurd (List.cons.inj heq).1 (ne_of_isBare hc (by decide))
    · next heq => exact absurd (List.cons.inj heq).1 (ne_of_isBare hc (by decide))
    · rfl
  simp [Toml.readPart?, hline, htake, hdrop, h.1]

theorem IsBareKey.skipSpace (h : IsBareKey key) : skipSpace (key ++ rest) = key ++ rest := by
  obtain ⟨c, text, rfl, hc⟩ := h.exists_cons
  simp [Toml.skipSpace, isSpace_of_isBare hc]

/-- A bare key is read up to the first character that is neither bare nor white space. -/
theorem IsBareKey.readKey? (h : IsBareKey key) (hrest : ∀ c ∈ rest.head?, isBare c = false)
    (hdot : (Toml.skipSpace rest).head? ≠ some '.') :
    readKey? (key ++ rest) = some ([key], Toml.skipSpace rest) := by
  unfold Toml.readKey? greatestDepth
  rw [readParts?, h.skipSpace, h.readPart? hrest]
  simp only [Option.bind_eq_bind, Option.bind_some]
  split
  · next heq => exact absurd (by rw [heq]; rfl) hdot
  · rfl

end

/-! ## Lines -/

theorem EndsLine.skipSpace {written : Text} {value : Toml} (h : EndsLine written value)
    (rest : Text) : skipSpace (written ++ '\n' :: rest) = written ++ '\n' :: rest := by
  cases written with
  | nil => rfl
  | cons c written => simp [Toml.skipSpace, h.spaceless c rfl]

/-- A character that is neither white space nor the beginning of a comment is not passed over. -/
theorem skipLines?_cons {c : Char} (hfeed : c ≠ '\n') (hreturn : c ≠ '\r') (hcomment : c ≠ '#')
    (hspace : isSpace c = false) (text : Text) :
    skipLines? false (c :: text) = some (c :: text) := by
  rw [skipLines?.eq_def]
  grind

/-- With fuel for every character, the statements of a text are read behind those that were read
before. -/
def Reads (before : List Statement) (text : Text) (statements : List Statement) : Prop :=
  ∀ fuel, text.length < fuel → readStatements? fuel before text = some statements

namespace Reads

variable {before statements : List Statement} {statement : Statement} {text rest : Text}

theorem nil (before : List Statement) : Reads before [] before.reverse := by
  intro fuel hfuel
  obtain ⟨fuel, rfl⟩ := Nat.exists_eq_add_one_of_ne_zero (Nat.ne_zero_of_lt hfuel)
  rfl

theorem feed (h : Reads before text statements) : Reads before ('\n' :: text) statements := by
  intro fuel hfuel
  obtain ⟨fuel, rfl⟩ := Nat.exists_eq_add_one_of_ne_zero (Nat.ne_zero_of_lt hfuel)
  rw [← h (fuel + 1) (by simp only [List.length_cons] at hfuel; omega)]
  rfl

/-- A line that begins with no white space and no comment is read as its statement. -/
theorem cons (htext : skipLines? false text = some text)
    (hread : ∀ fuel, text.length < fuel → readStatement? fuel text = some (statement, '\n' :: rest))
    (hlength : rest.length + 1 < text.length) (h : Reads (statement :: before) rest statements) :
    Reads before text statements := by
  intro fuel hfuel
  obtain ⟨fuel, rfl⟩ := Nat.exists_eq_add_one_of_ne_zero (Nat.ne_zero_of_lt hfuel)
  have hnext := h.feed fuel (by rw [List.length_cons]; omega)
  cases text with
  | nil => cases hlength
  | cons c text =>
    simp only [readStatements?, htext, hread _ hfuel]
    exact hnext

theorem header {name : Text} (hname : IsBareKey name)
    (h : Reads (.header [name] :: before) rest statements) :
    Reads before ('[' :: (name ++ ']' :: '\n' :: rest)) statements := by
  refine cons rfl (fun fuel _ ↦ ?_) (by simp only [List.length_cons, List.length_append]; omega) h
  have hkey : readKey? (name ++ ']' :: '\n' :: rest) = some ([name], ']' :: '\n' :: rest) :=
    hname.readKey? (by simp [isBare]) (by simp [skipSpace, isSpace])
  obtain ⟨c, text, rfl, hc⟩ := hname.exists_cons
  rw [readStatement?]
  · rw [hkey]
    rfl
  · rintro more heq
    exact ne_of_isBare hc (by decide) (List.cons.inj heq).1

theorem line {line : Line} (hline : line.IsReadable)
    (h : Reads (line.statement :: before) rest statements) :
    Reads before (line.write ++ rest) statements := by
  have hkey : readKey? (line.key ++ ' ' :: '=' :: ' ' :: (line.written ++ '\n' :: rest)) =
      some ([line.key], '=' :: ' ' :: (line.written ++ '\n' :: rest)) :=
    hline.key.readKey? (by simp [isBare]) (by simp [skipSpace, isSpace])
  have hform : line.write ++ rest =
      line.key ++ ' ' :: '=' :: ' ' :: (line.written ++ '\n' :: rest) := by
    simp [Line.write]
  obtain ⟨c, text, hc, hbare⟩ := hline.key.exists_cons
  rw [hform]
  refine cons ?_ (fun fuel hfuel ↦ ?_)
    (by simp only [List.length_cons, List.length_append]; omega) h
  · rw [hc, List.cons_append]
    exact skipLines?_cons (ne_of_isBare hbare (by decide)) (ne_of_isBare hbare (by decide))
      (ne_of_isBare hbare (by decide)) (isSpace_of_isBare hbare) _
  · have hbracket (more : Text) :
        line.key ++ ' ' :: '=' :: ' ' :: (line.written ++ '\n' :: rest) ≠ '[' :: more := by
      rw [hc]
      exact fun heq ↦ ne_of_isBare hbare (by decide) (List.cons.inj heq).1
    have hvalue := hline.value.read fuel rest (by
      simp only [List.length_cons, List.length_append] at hfuel
      omega)
    rw [readStatement?, hkey]
    · change ((readValue? fuel 0 (skipSpace (line.written ++ '\n' :: rest))).map fun read ↦
        (Statement.entry [line.key] read.1, read.2)) = _
      rw [hline.value.skipSpace, hvalue]
      rfl
    · exact fun _ ↦ hbracket _
    · exact hbracket

theorem lines {lines : List Line} (hlines : ∀ line ∈ lines, line.IsReadable)
    (h : Reads ((lines.map Line.statement).reverse ++ before) rest statements) :
    Reads before (lines.flatMap Line.write ++ rest) statements := by
  induction lines generalizing before with
  | nil => exact h
  | cons first lines ih =>
    rw [List.forall_mem_cons] at hlines
    rw [List.map_cons, List.reverse_cons, List.append_assoc, List.singleton_append] at h
    rw [List.flatMap_cons, List.append_assoc]
    exact line hlines.1 (ih hlines.2 h)

theorem block {block : Block} (hblock : block.IsReadable)
    (h : Reads (block.statements.reverse ++ before) rest statements) :
    Reads before (block.write ++ rest) statements := by
  have hform : block.write ++ rest =
      '[' :: (block.name ++ ']' :: '\n' :: (block.lines.flatMap Line.write ++ '\n' :: rest)) := by
    simp [Block.write]
  rw [Block.statements, List.reverse_cons, List.append_assoc, List.singleton_append] at h
  rw [hform]
  exact header hblock.name (lines hblock.lines h.feed)

theorem blocks {blocks : List Block} (hblocks : ∀ block ∈ blocks, block.IsReadable) :
    Reads before (blocks.flatMap Block.write)
      (before.reverse ++ blocks.flatMap Block.statements) := by
  induction blocks generalizing before with
  | nil => simpa using nil before
  | cons first blocks ih =>
    rw [List.forall_mem_cons] at hblocks
    have hnext := @ih (first.statements.reverse ++ before) hblocks.2
    rw [List.reverse_append, List.reverse_reverse, List.append_assoc] at hnext
    rw [List.flatMap_cons, List.flatMap_cons]
    exact block hblocks.1 hnext

end Reads

/-! ## Tables -/

namespace Node

variable {nodes : Nodes} {key : Text} {change : Option Node → Option Node}

/-- A key that a table does not hold is added at its end. -/
theorem alter_append_of_not_mem (h : ∀ entry ∈ nodes, entry.1 ≠ key) (more : Nodes) :
    alter key change (nodes ++ more) = (alter key change more).map (nodes ++ ·) := by
  induction nodes with
  | nil => simp
  | cons entry nodes ih =>
    rw [List.forall_mem_cons] at h
    rw [List.cons_append, alter, if_neg h.1, ih h.2, Option.map_map]
    rfl

theorem alter_of_not_mem (h : ∀ entry ∈ nodes, entry.1 ≠ key) :
    alter key change nodes = (change none).map fun node ↦ nodes ++ [(key, node)] := by
  have happend : alter key change (nodes ++ []) = (alter key change []).map (nodes ++ ·) :=
    alter_append_of_not_mem h []
  rw [List.append_nil, alter, Option.map_map] at happend
  exact happend

end Node

/-- A line in a table that is being made. -/
def Line.node (line : Line) : Text × Node :=
  (line.key, .value line.value)

/-- A table with a header, as it stands in a document that is being made. -/
def Block.node (block : Block) : Text × Node :=
  (block.name, .table .header (block.lines.map Line.node))

namespace Outline

variable {nodes : Node.Nodes} {name : Text} {current : List Text}

theorem add_header (h : ∀ entry ∈ nodes, entry.1 ≠ name) :
    (⟨nodes, current⟩ : Outline).add (.header [name]) =
      some ⟨nodes ++ [(name, .table .header [])], [name]⟩ := by
  have hadd : Node.addTable [name] nodes = some (nodes ++ [(name, .table .header [])]) :=
    Node.alter_of_not_mem h
  rw [add, hadd]
  rfl

theorem add_line {inner : Node.Nodes} {line : Line} (h : ∀ entry ∈ nodes, entry.1 ≠ name)
    (hkey : ∀ entry ∈ inner, entry.1 ≠ line.key) :
    (⟨nodes ++ [(name, .table .header inner)], [name]⟩ : Outline).add line.statement =
      some ⟨nodes ++ [(name, .table .header (inner ++ [line.node]))], [name]⟩ := by
  have hadd : Node.addValue [line.key] line.value inner = some (inner ++ [line.node]) :=
    Node.alter_of_not_mem hkey
  rw [Line.statement, add, Node.within, Node.alter_append_of_not_mem h, Node.alter, if_pos rfl]
  simp [Node.within, hadd]

/-- Lines with new keys are added to the table of the last header in their order. -/
theorem foldlM_lines {lines : List Line} (h : ∀ entry ∈ nodes, entry.1 ≠ name)
    (hdistinct : (lines.map Line.key).Nodup) (rest : List Statement) {inner : Node.Nodes}
    (hinner : ∀ entry ∈ inner, ∀ line ∈ lines, entry.1 ≠ line.key) :
    (lines.map Line.statement ++ rest).foldlM add
        (⟨nodes ++ [(name, .table .header inner)], [name]⟩ : Outline) =
      rest.foldlM add
        ⟨nodes ++ [(name, .table .header (inner ++ lines.map Line.node))], [name]⟩ := by
  induction lines generalizing inner with
  | nil => simp
  | cons line lines ih =>
    rw [List.map_cons, List.nodup_cons] at hdistinct
    have hnext := @ih hdistinct.2 (inner ++ [line.node]) fun entry hentry other hother ↦ by
      rw [List.mem_append, List.mem_singleton] at hentry
      rcases hentry with hentry | rfl
      · exact hinner entry hentry other (List.mem_cons_of_mem _ hother)
      · exact fun he ↦ hdistinct.1 (List.mem_map.mpr ⟨other, hother, he.symm⟩)
    rw [List.map_cons, List.cons_append, List.foldlM_cons,
      add_line h fun entry hentry ↦ hinner entry hentry line List.mem_cons_self]
    simpa using hnext

theorem foldlM_blocks {blocks : List Block} (hblocks : ∀ block ∈ blocks, block.IsReadable)
    (hdistinct : (blocks.map Block.name).Nodup)
    (hnodes : ∀ entry ∈ nodes, ∀ block ∈ blocks, entry.1 ≠ block.name) :
    ((blocks.flatMap Block.statements).foldlM add (⟨nodes, current⟩ : Outline)).map Outline.nodes =
      some (nodes ++ blocks.map Block.node) := by
  induction blocks generalizing nodes current with
  | nil => simp
  | cons block blocks ih =>
    rw [List.map_cons, List.nodup_cons] at hdistinct
    rw [List.forall_mem_cons] at hblocks
    have hname : ∀ entry ∈ nodes, entry.1 ≠ block.name :=
      fun entry hentry ↦ hnodes entry hentry block List.mem_cons_self
    have hnext := @ih (nodes ++ [block.node]) [block.name] hblocks.2 hdistinct.2
      fun entry hentry other hother ↦ by
        rw [List.mem_append, List.mem_singleton] at hentry
        rcases hentry with hentry | rfl
        · exact hnodes entry hentry other (List.mem_cons_of_mem _ hother)
        · exact fun he ↦ hdistinct.1 (List.mem_map.mpr ⟨other, hother, he.symm⟩)
    rw [List.flatMap_cons, Block.statements, List.cons_append, List.foldlM_cons, add_header hname,
      Option.bind_eq_bind, Option.bind_some, foldlM_lines hname hblocks.1.distinct _ (by simp)]
    simpa [Block.node] using hnext

end Outline

theorem closeAll_lines (lines : List Line) :
    Node.closeAll (lines.map Line.node) = lines.map Line.entry := by
  induction lines with
  | nil => rfl
  | cons line lines ih =>
    rw [List.map_cons, List.map_cons, ← ih]
    rfl

theorem closeAll_blocks (blocks : List Block) :
    Node.closeAll (blocks.map Block.node) = blocks.map Block.entry := by
  induction blocks with
  | nil => rfl
  | cons block blocks ih =>
    rw [List.map_cons, List.map_cons, ← ih, Block.entry, ← closeAll_lines]
    rfl

/-! ## Documents -/

theorem dropMark_blocks (blocks : List Block) :
    dropMark (blocks.flatMap Block.write) = blocks.flatMap Block.write := by
  cases blocks with
  | nil => rfl
  | cons block blocks => rfl

/-- A row of tables is read back: each table with its name and its entries, all in their order. -/
theorem read?_blocks {blocks : List Block} (hblocks : ∀ block ∈ blocks, block.IsReadable)
    (hdistinct : (blocks.map Block.name).Nodup) :
    read? (blocks.flatMap Block.write) = some (blocks.map Block.entry) := by
  have hread : Reads [] (blocks.flatMap Block.write) (blocks.flatMap Block.statements) :=
    Reads.blocks hblocks
  have hnodes : ((blocks.flatMap Block.statements).foldlM Outline.add {}).map Outline.nodes =
      some ([] ++ blocks.map Block.node) :=
    Outline.foldlM_blocks hblocks hdistinct nofun
  have hclosed := congrArg (Option.map Node.closeAll) hnodes
  rw [Option.map_map, Option.map_some, List.nil_append, closeAll_blocks] at hclosed
  rw [read?, dropMark_blocks, hread _ (Nat.lt_succ_self _), Option.bind_some]
  exact hclosed

end CodeRepair.Toml
