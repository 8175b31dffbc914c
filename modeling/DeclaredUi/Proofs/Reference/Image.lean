import DeclaredUi.Proofs.Html.Codec
import DeclaredUi.Proofs.Render.Nested
import DeclaredUi.Proofs.Render.Resolve
import DeclaredUi.Proofs.Value.Textual
import DeclaredUi.Reference.Registry
import DeclaredUi.Text.Pieces

/-! The attributes of an image. What is written between their quotes is escaped, so it has no
quote that ends the attribute and no bracket that ends the tag, and unescaping it gives the
text back. A value that is written as a row of texts is escaped in the same way as a whole as
it is escaped string by string. -/

namespace DeclaredUi

namespace Reference

/-- The tag of an image with these texts between the quotes. -/
def tag (source alt : String) : String :=
  "<img src=\"" ++ source ++ "\" alt=\"" ++ alt ++ "\">"

/-- An image writes its source and its alternative text as they are. -/
theorem component_image {plugins : Plugins} {used : Invocation} {env config : Value}
    {escape : Bool} (hplugin : plugins used.plugin = .component image)
    (hconfig : Render.prepareConfig plugins escape used.config env = .ok config) (limit : Nat) :
    Render.component plugins escape (limit + 1) used env = .ok (.string
      (tag (config.firstTruthy ["source", "$image"]).text (config.getOrNull "alt").text)) := by
  rw [Render.component_succ, hconfig]
  show Script.run _ _ ((plugins used.plugin).run config env true) = _
  rw [hplugin]
  rfl

/-- The quotes of the tag cut it into what is between them. -/
theorem pieces_tag {source alt : String} (hsource : '"' ∉ source.toList)
    (halt : '"' ∉ alt.toList) :
    Pieces.ofText '"' (tag source alt) = ["<img src=", source, " alt=", alt, ">"] := by
  have hlist : (tag source alt).toList = "<img src=".toList ++ '"' :: (source.toList ++ '"' ::
      (" alt=".toList ++ '"' :: (alt.toList ++ '"' :: ">".toList))) := by
    simp [tag]
  rw [Pieces.ofText, hlist, List.splitOn_append_cons_self, List.splitOn_append_cons_self,
    List.splitOn_append_cons_self, List.splitOn_append_cons_self,
    List.splitOn_eq_singleton (by decide : '"' ∉ "<img src=".toList),
    List.splitOn_eq_singleton hsource, List.splitOn_eq_singleton (by decide : '"' ∉ " alt=".toList),
    List.splitOn_eq_singleton halt, List.splitOn_eq_singleton (by decide : '"' ∉ ">".toList)]
  simp

/-- A character that escaping removes is in the tag as often as in one without texts. -/
theorem count_tag_escape {c : Char} (hc : c ∈ ['<', '>', '"', '\'']) (source alt : String) :
    (tag (Html.escape source) (Html.escape alt)).toList.count c =
      (tag "" "").toList.count c := by
  have hnone : ∀ text, (Html.escape text).toList.count c = 0 :=
    fun text => List.count_eq_zero.2 (Html.not_mem_escape hc text)
  simp only [tag, String.toList_append, List.count_append, hnone]
  rfl

/-- Nothing breaks out of the attributes of an image and nothing is lost in them: the tag has
its own four quotes and its own two brackets, and what is between the quotes is the source and
the alternative text, escaped. -/
theorem image_attributes {plugins : Plugins} {used : Invocation} {env config : Value}
    (hplugin : plugins used.plugin = .component image)
    (hconfig : Render.Resolves plugins env used.config config)
    (hsource : (config.firstTruthy ["source", "$image"]).Textual)
    (halt : (config.getOrNull "alt").Textual) (limit : Nat) :
    ∃ output source alt,
      Render.component plugins true (limit + 1) used env = .ok (.string output) ∧
      output.toList.count '"' = 4 ∧ output.toList.count '<' = 1 ∧ output.toList.count '>' = 1 ∧
      Pieces.ofText '"' output = ["<img src=", source, " alt=", alt, ">"] ∧
      Html.unescape source = (config.firstTruthy ["source", "$image"]).text ∧
      Html.unescape alt = (config.getOrNull "alt").text := by
  have hprepared : Render.prepareConfig plugins true used.config env = .ok config.escapeHtml :=
    Render.prepareConfig_ok_iff.2 ⟨config, hconfig, rfl⟩
  have houtput := component_image hplugin hprepared limit
  rw [Value.firstTruthy_escapeHtml, Value.getOrNull_escapeHtml, hsource.text_escapeHtml,
    halt.text_escapeHtml] at houtput
  have hquote : ∀ text, '"' ∉ (Html.escape text).toList := Html.not_mem_escape (by decide)
  refine ⟨_, _, _, houtput, ?_, ?_, ?_, pieces_tag (hquote _) (hquote _),
    Html.unescape_escape _, Html.unescape_escape _⟩
  · rw [count_tag_escape (by decide)]
    decide
  · rw [count_tag_escape (by decide)]
    decide
  · rw [count_tag_escape (by decide)]
    decide

/-- A picture whose file and names are looked up, and have quotes and brackets of their own. -/
def portrait : Invocation where
  name := "image"
  plugin := ⟨1⟩
  config := .map [("source", .scalar (.bool false)), ("$image", .bind ⟨"file", .null⟩),
    ("alt", .bind ⟨"names", .null⟩)]
  declaration := .null

def portraitEnv : Value :=
  .object [("file", .string "\" onerror=\"alert(1)"),
    ("names", .array [.string "<A>", .null, .array [.string " & ", .bool true]])]

theorem portrait_attributes :
    ∃ output source alt,
      Render.component plugins true 1 portrait portraitEnv = .ok (.string output) ∧
      output.toList.count '"' = 4 ∧
      Pieces.ofText '"' output = ["<img src=", source, " alt=", alt, ">"] ∧
      Html.unescape source = "\" onerror=\"alert(1)" ∧ Html.unescape alt = "<A> & true" := by
  have hinner : (Value.array [.string " & ", .bool true]).Textual :=
    .array (by simp [Value.Textual.string, Value.Textual.bool])
  have hnames : (Value.array [.string "<A>", .null, .array [.string " & ", .bool true]]).Textual :=
    .array (by simp [Value.Textual.string, Value.Textual.null, hinner])
  obtain ⟨output, source, alt, houtput, hquotes, -, -, hpieces, hsource, halt⟩ :=
    @image_attributes plugins portrait portraitEnv _ rfl rfl (.string _) hnames 0
  exact ⟨output, source, alt, houtput, hquotes, hpieces, hsource, halt⟩

end Reference

end DeclaredUi
