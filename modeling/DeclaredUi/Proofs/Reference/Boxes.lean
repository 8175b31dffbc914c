import DeclaredUi.Proofs.Lines
import DeclaredUi.Proofs.Reference.Simulation
import DeclaredUi.Proofs.Render.Nested
import DeclaredUi.Proofs.Render.Resolve

/-! Boxes in boxes. A box indents the text of each child, which for a child that is a box
has been indented line by line before. In the end every line stands as far in as there are
boxes around it, which can be written down in one go from the outermost box inwards. -/

namespace DeclaredUi

namespace Reference

/-- Words, or a box with blocks below each other. -/
inductive Block where
  | text (words : String)
  | box (parts : List Block)

namespace Block

@[elab_as_elim]
theorem byParts {motive : Block → Prop} (text : ∀ words, motive (.text words))
    (box : ∀ parts, (∀ part ∈ parts, motive part) → motive (.box parts)) : ∀ block, motive block
  | .text words => text words
  | .box parts => box parts fun part _ => byParts text box part

/-- Words as a component receives them. -/
def received (escape : Bool) (words : String) : String :=
  if escape then Html.escape words else words

/-- Two spaces for every box around. -/
def margin (depth : Nat) : String := String.ofList (List.replicate (2 * depth) ' ')

mutual

/-- The lines of a block that has this many boxes around it. -/
def lines (escape : Bool) (depth : Nat) : Block → List String
  | .text words =>
    (Lines.ofText (received escape words)).map fun line => margin depth ++ Lines.terminated line
  | .box parts =>
    (margin depth ++ boxOpening ++ "\n") :: linesOf escape (depth + 1) parts ++
      [margin depth ++ boxClosing ++ "\n"]

def linesOf (escape : Bool) (depth : Nat) : List Block → List String
  | [] => []
  | part :: rest => lines escape depth part ++ linesOf escape depth rest

end

@[simp] theorem linesOf_eq_flatMap (escape : Bool) (depth : Nat) (parts : List Block) :
    linesOf escape depth parts = parts.flatMap (lines escape depth) := by
  induction parts with
  | nil => rfl
  | cons part rest ih => simp [linesOf, ih]

def layout (escape : Bool) (depth : Nat) (block : Block) : String :=
  String.join (block.lines escape depth)

/-- What a block is by itself: words as they are received, a box as it is laid out. -/
def shown (escape : Bool) : Block → String
  | .text words => received escape words
  | .box parts => layout escape 0 (.box parts)

mutual

/-- How many boxes enclose each other at most. -/
def height : Block → Nat
  | .text _ => 0
  | .box parts => heightOf parts + 1

def heightOf : List Block → Nat
  | [] => 0
  | part :: rest => max (height part) (heightOf rest)

end

theorem height_le_of_mem {parts : List Block} {part : Block} (h : part ∈ parts) :
    part.height ≤ heightOf parts := by
  induction parts with
  | nil => cases h
  | cons first rest ih =>
    rw [heightOf]
    rcases List.mem_cons.1 h with rfl | h
    · exact Nat.le_max_left _ _
    · exact Nat.le_trans (ih h) (Nat.le_max_right _ _)

/-! ## One box more around a block -/

variable {escape : Bool} {depth : Nat}

theorem margin_succ (depth : Nat) : margin (depth + 1) = "  " ++ margin depth := by
  have hlength : 2 * (depth + 1) = 2 + 2 * depth := by omega
  rw [margin, hlength, ← List.replicate_append_replicate, String.ofList_append]
  rfl

theorem newline_not_mem_margin (depth : Nat) : '\n' ∉ (margin depth).toList := by
  rw [margin, String.toList_ofList, List.mem_replicate]
  rintro ⟨-, h⟩
  cases h

theorem isLine_of_mem_lines {block : Block} {line : String} (h : line ∈ block.lines escape depth) :
    Lines.IsLine line := by
  induction block using byParts generalizing depth with
  | text words =>
    obtain ⟨original, hm, rfl⟩ := List.mem_map.1 h
    exact (Lines.isLine_of_mem_ofText hm).append (newline_not_mem_margin depth)
  | box parts ih =>
    have htag : ∀ tag : String, '\n' ∉ tag.toList → Lines.IsLine (margin depth ++ tag ++ "\n") :=
      fun tag htag => ⟨margin depth ++ tag, by
        rw [String.toList_append, List.mem_append]
        exact not_or.2 ⟨newline_not_mem_margin depth, htag⟩, rfl⟩
    rw [lines, linesOf_eq_flatMap] at h
    rcases List.mem_append.1 h with h | h
    · rcases List.mem_cons.1 h with rfl | h
      · exact htag boxOpening (by decide)
      · obtain ⟨part, hpart, hline⟩ := List.mem_flatMap.1 h
        exact ih part hpart hline
    · rw [List.mem_singleton.1 h]
      exact htag boxClosing (by decide)

/-- Every line of a block stands two spaces further in. -/
theorem lines_succ (block : Block) (depth : Nat) :
    block.lines escape (depth + 1) = (block.lines escape depth).map ("  " ++ ·) := by
  induction block using byParts generalizing depth with
  | text words =>
    simp only [lines, margin_succ, List.map_map, Function.comp_def, String.append_assoc]
  | box parts ih =>
    have hparts : parts.flatMap (lines escape (depth + 1 + 1)) =
        (parts.flatMap (lines escape (depth + 1))).map ("  " ++ ·) := by
      rw [List.map_flatMap]
      exact List.flatMap_congr fun part hm => ih part hm (depth + 1)
    simp only [lines, linesOf_eq_flatMap, hparts, margin_succ, List.map_append, List.map_cons,
      List.map_nil, String.append_assoc]

/-- Indenting the text of a block comes to its layout in one more box. -/
theorem join_indented (block : Block) :
    String.join ((indented (block.shown escape)).map Lines.terminated) =
      block.layout escape 1 := by
  cases block with
  | text words =>
    rw [shown, layout, lines, indented, List.map_map]
    have hline : ∀ line : String, Lines.terminated ("  " ++ line) = "  " ++ Lines.terminated line :=
      Lines.terminated_append (by decide)
    exact congrArg String.join (List.map_congr_left fun line _ => hline line)
  | box parts =>
    have hlines : ∀ line ∈ (Block.box parts).lines escape 1, Lines.IsLine line :=
      fun line => isLine_of_mem_lines
    rw [shown, layout, indented, Lines.ofText_join fun line => isLine_of_mem_lines, ← lines_succ,
      Lines.map_terminated hlines]
    rfl

/-- Blocks below each other are their lines below each other. -/
theorem join_layouts (parts : List Block) (depth : Nat) :
    String.join (parts.map (layout escape depth)) =
      String.join (parts.flatMap (lines escape depth)) := by
  induction parts with
  | nil => rfl
  | cons part rest ih =>
    rw [List.map_cons, String.join_cons, ih, List.flatMap_cons, String.join_append]
    rfl

/-- Without two characters in front of every line a block has one box less around it. -/
theorem drop_lines_succ (block : Block) (depth : Nat) :
    (block.lines escape (depth + 1)).map (fun line => String.ofList (line.toList.drop 2)) =
      block.lines escape depth := by
  have hdrop : ∀ line : String, String.ofList (("  " ++ line).toList.drop 2) = line := by
    intro line
    rw [String.toList_append]
    exact String.ofList_toList
  rw [lines_succ, List.map_map]
  exact (List.map_congr_left fun line _ => hdrop line).trans (List.map_id' _)

/-- At the margin a block is its text with a line break at the end. -/
theorem layout_zero (block : Block) : block.layout escape 0 = Lines.ended (block.shown escape) := by
  cases block with
  | text words =>
    rw [layout, lines, shown, ← Lines.join_terminated]
    exact congrArg String.join (List.map_congr_left fun line _ => String.empty_append)
  | box parts => exact (Lines.ended_join fun line => isLine_of_mem_lines).symm

end Block

/-! ## Boxes in a tree -/

/-- What a box lists as its children: what is under `children`, or without that what is
under the shorthand. -/
def Children (fields : List (String × Node)) (items : List Node) : Prop :=
  fields.lookup "children" = some (.sequence items) ∨
    (∀ node, fields.lookup "children" = some node →
      node = .scalar .null ∨ node = .scalar (.bool false)) ∧
    fields.lookup "$vbox" = some (.sequence items)

/-- The node is the block: a string, or a box of such nodes. What else a box is declared
with may be anything that comes to a value. -/
inductive Draws (plugins : Plugins) : Node → Block → Prop
  | text (words : String) : Draws plugins (.scalar (.string words)) (.text words)
  | box {name : String} {plugin : PluginId} {fields : List (String × Node)} {declaration : Json}
      {items : List Node} {parts : List Block} :
      plugins plugin = .component vbox →
      (∀ helper, .invocation .helper helper ∈ (Node.map fields).surface → ∀ config env,
        ∃ value, Render.callHelper plugins helper.name helper.plugin config env = .ok value) →
      Children fields items → List.Forall₂ (Draws plugins) items parts →
      Draws plugins (.invocation .component name plugin (.map fields) declaration) (.box parts)

variable {plugins : Plugins} {escape : Bool} {env : Value}

theorem Children.firstTruthy {fields : List (String × Node)} {items : List Node} {config : Value}
    (h : Children fields items) (hc : Render.Resolves plugins env (.map fields) config) :
    ∃ values, config.firstTruthy ["children", "$vbox"] = .array values ∧
      List.Forall₂ (Render.Resolves plugins env) items values := by
  have hlisted : ∀ key, fields.lookup key = some (.sequence items) →
      ∃ values, config.get? key = some (.array values) ∧
        List.Forall₂ (Render.Resolves plugins env) items values := by
    intro key hl
    obtain ⟨found, hg, hfound⟩ := Render.exists_get?_of_resolves hc hl
    obtain ⟨values, rfl, hvalues⟩ := Render.resolves_sequence_iff.1 hfound
    exact ⟨values, hg, hvalues⟩
  rcases h with hl | ⟨hno, hl⟩
  · obtain ⟨values, hg, hvalues⟩ := hlisted _ hl
    exact ⟨values, Value.firstTruthy_of_truthy hg rfl _, hvalues⟩
  · obtain ⟨values, hg, hvalues⟩ := hlisted _ hl
    have hnot : ∀ found, config.get? "children" = some found → found.truthy = false := by
      intro found hfound
      obtain ⟨node, hnode, hresolves⟩ := Render.exists_lookup_of_resolves hc hfound
      rcases hno node hnode with rfl | rfl
      · obtain rfl := Except.ok.inj hresolves
        rfl
      · obtain rfl := Except.ok.inj hresolves
        rfl
    refine ⟨values, ?_, hvalues⟩
    rw [Value.firstTruthy_of_not_truthy hnot]
    exact Value.firstTruthy_of_truthy hg rfl _

theorem run_renderTexts (element : String) (answer : Value → Value → Outcome Value)
    {children : List Value} {texts : List String}
    (h : List.Forall₂ (fun child text => answer child env = .ok (.string text)) children texts) :
    (renderTexts env children).run element answer = .ok texts := by
  induction h with
  | nil => rfl
  | cons hchild _ ih =>
    rw [renderTexts, Script.run_bind, Script.run_render, hchild]
    change ((renderTexts env _ >>= _).run element answer) = _
    rw [Script.run_bind, ih]
    rfl

/-- A box is written from the texts of its children, which stand in one box more. -/
theorem join_box_shown (parts : List Block) :
    String.join ((boxOpening :: (parts.map (Block.shown escape)).flatMap indented ++
      [boxClosing]).map Lines.terminated) = (Block.box parts).shown escape := by
  have hparts : parts.map ((fun text => String.join ((indented text).map Lines.terminated)) ∘
      Block.shown escape) = parts.map (Block.layout escape 1) :=
    List.map_congr_left fun part _ => Block.join_indented part
  rw [join_box, List.map_map, hparts, Block.join_layouts, Block.shown, Block.layout, Block.lines,
    Block.linesOf_eq_flatMap, String.join_append, String.join_cons]
  rfl

theorem run_vbox (element : String) (answer : Value → Value → Outcome Value) {config : Value}
    {parts : List Block}
    (h : List.Forall₂ (fun child text => answer child env = .ok (.string text))
      (config.firstTruthy ["children", "$vbox"]).intoItems (parts.map (Block.shown escape))) :
    (vbox config env).run element answer = .ok (.string ((Block.box parts).shown escape)) := by
  change Script.run _ _ (renderTexts env _ >>= _) = _
  rw [Script.run_bind, run_renderTexts element answer h, ← join_box_shown]
  rfl

/-- A node that is a block is rendered to the text of the block. -/
theorem Draws.childOutcome {node : Node} {block : Block} {value : Value} {limit : Nat}
    (h : Draws plugins node block) (hv : Render.Resolves plugins env node value)
    (hl : block.height ≤ limit) :
    Render.childOutcome plugins escape limit (Render.prepare escape value) env =
      .ok (.string (block.shown escape)) := by
  induction block using Block.byParts generalizing node value limit with
  | text words =>
    cases h
    obtain rfl := Except.ok.inj hv
    cases escape <;> rfl
  | box parts ih =>
    obtain _ | @⟨name, plugin, fields, declaration, items, _, hplugin, hhelpers, hchildren,
      hparts⟩ := h
    obtain rfl := Except.ok.inj hv
    cases limit with
    | zero => cases hl
    | succ limit =>
      obtain ⟨config, hconfig⟩ :=
        Render.exists_resolves fun helper hm config => hhelpers helper hm config env
      obtain ⟨values, hfirst, hvalues⟩ := hchildren.firstTruthy hconfig
      have hanswers : List.Forall₂ (fun child text =>
          Render.childOutcome plugins escape limit child env = .ok (.string text))
          (values.map (Render.prepare escape)) (parts.map (Block.shown escape)) := by
        refine List.forall₂_map_left_iff.2 (List.forall₂_map_right_iff.2 ?_)
        refine forall₂_imp_of_mem (forall₂_through hvalues hparts) ?_
        rintro child - part hpart ⟨item, hresolves, hdraws⟩
        exact ih part hpart hdraws hresolves
          (Nat.le_trans (Block.height_le_of_mem hpart) (Nat.le_of_succ_le_succ hl))
      have hitems : ((Render.prepare escape config).firstTruthy ["children", "$vbox"]).intoItems =
          values.map (Render.prepare escape) := by
        rw [Render.firstTruthy_prepare, Render.intoItems_prepare, hfirst]
        rfl
      have hunescaped : Render.prepare escape (.element ⟨name, plugin, .map fields, declaration⟩) =
          .element ⟨name, plugin, .map fields, declaration⟩ := by
        cases escape <;> rfl
      rw [hunescaped]
      change Render.component plugins escape (limit + 1) _ env = _
      rw [Render.component_succ, Render.prepareConfig_ok_iff.2 ⟨config, hconfig, rfl⟩]
      change Script.run _ _ ((plugins plugin).run (Render.prepare escape config) env true) = _
      rw [hplugin]
      rw [← hitems] at hanswers
      exact run_vbox _ _ hanswers

/-- Boxes in boxes are laid out in one go from the outermost box inwards. Without its first
and its last line and without two characters in front of every other, a box is its children
one below the other, each with a line break at its end; a nested box is by itself such a
tree again. -/
theorem boxes_laid_out {root : Invocation} {parts : List Block}
    (h : Draws plugins (root.toNode .component) (.box parts)) {limit : Nat}
    (hl : (Block.box parts).height ≤ limit) (escape : Bool) (env : Value) :
    (Renderer.mk root escape).render plugins limit env =
        .ok (.string ((Block.box parts).layout escape 0)) ∧
      ∃ inner, Lines.ofText ((Block.box parts).layout escape 0) =
          (boxOpening ++ "\n") :: inner ++ [boxClosing ++ "\n"] ∧
        String.join (inner.map fun line => String.ofList (line.toList.drop 2)) =
          String.join (parts.map fun part => Lines.ended (part.shown escape)) := by
  refine ⟨?rendered, parts.flatMap (Block.lines escape 1), ?inner, ?children⟩
  case rendered =>
    have hroot : Render.childOutcome plugins escape limit
        (Render.prepare escape (.element root)) env = _ := h.childOutcome rfl hl
    cases escape <;> exact hroot
  case inner =>
    rw [Block.layout, Lines.ofText_join fun line => Block.isLine_of_mem_lines, Block.lines,
      Block.linesOf_eq_flatMap]
    rfl
  case children =>
    have hparts : parts.map (fun part => Lines.ended (part.shown escape)) =
        parts.map (Block.layout escape 0) :=
      List.map_congr_left fun part _ => part.layout_zero.symm
    rw [List.map_flatMap, List.flatMap_congr fun part _ => part.drop_lines_succ 0, hparts,
      Block.join_layouts]

/-- A box with an empty line, an empty text and a box in it. In the inner one the explicit
key is there, but turned off. -/
def shelf : Invocation where
  name := "vbox"
  plugin := ⟨7⟩
  config := .map [("$vbox", .sequence [.scalar (.string "a\n\n<b"), .scalar (.string ""),
    .invocation .component "vbox" ⟨7⟩ (.map [("$vbox", .sequence [.scalar (.string "c\n")]),
      ("children", .scalar (.bool false))]) .null])]
  declaration := .null

def shelfParts : List Block := [.text "a\n\n<b", .text "", .box [.text "c\n"]]

theorem shelf_laid_out :
    (Renderer.mk shelf true).render Reference.plugins 2 .null = .ok (.string (
      boxOpening ++ "\n  a\n  \n  &lt;b\n  " ++ boxOpening ++
        "\n    c\n  </div>\n</div>\n")) := by
  have hinner : Draws Reference.plugins (.invocation .component "vbox" ⟨7⟩
      (.map [("$vbox", .sequence [.scalar (.string "c\n")]),
        ("children", .scalar (.bool false))]) .null) (.box [.text "c\n"]) :=
    .box rfl (by simp [Node.surface]) (.inr ⟨fun node h => .inr (Option.some.inj h).symm, rfl⟩)
      (.cons (.text _) .nil)
  have hdraws : Draws Reference.plugins (shelf.toNode .component) (.box shelfParts) := by
    refine .box rfl (by simp [Node.surface]) (.inr ⟨?_, rfl⟩)
      (.cons (.text _) (.cons (.text _) (.cons hinner .nil)))
    rintro node ⟨⟩
  have hheight : (Block.box shelfParts).height ≤ 2 := by decide
  obtain ⟨hrendered, -⟩ := boxes_laid_out hdraws hheight true .null
  exact hrendered.trans rfl

end Reference

end DeclaredUi
