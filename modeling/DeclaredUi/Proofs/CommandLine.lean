import DeclaredUi.CommandLine
import DeclaredUi.Proofs.Parts
import DeclaredUi.Proofs.Ui

/-! The command line does what the library does, whichever texts the reader of documents takes
for documents. The arguments come to an interface with a tree and an environment, or to neither;
either way nothing is printed before it is known whether there is a page to show, and where the
flag stands makes no difference. -/

namespace DeclaredUi

namespace CommandLine

/-- The arguments that name files. -/
def others (args : List String) : List String := args.filter (· != noEscapeFlag)

/-- A path leads to a file that holds a document. -/
def Holds (read : String → Except ReadFault String) (reader : DocumentReader) (path : String)
    (document : Json) : Prop :=
  ∃ content, read path = .ok content ∧ reader content = .ok document

/-- An interface with the reference plug-ins that escapes unless the flag is there. -/
def library (args : List String) : Ui :=
  .mk Reference.plugins Reference.registry ⟨decide (noEscapeFlag ∉ args)⟩ .silent none

/-- What the arguments come to in the library. The first file holds a declaration that is
accepted, and the second the environment to render it in, which is `null` if none is named. -/
inductive Prepares (read : String → Except ReadFault String) (reader : DocumentReader)
    (args : List String) : Ui → Value → Prop
  | page {page : String} {declaration : Json} {parsed : Ui} {root : Invocation} :
      others args = [page] → Holds read reader page declaration →
      (library args).parse declaration = (parsed, .ok root) →
      Prepares read reader args parsed .null
  | pageWithData {page data : String} {declaration document : Json} {parsed : Ui}
      {root : Invocation} :
      others args = [page, data] → Holds read reader page declaration →
      Holds read reader data document →
      (library args).parse declaration = (parsed, .ok root) →
      Prepares read reader args parsed (.ofJson document)

section

variable {read : String → Except ReadFault String} {reader : DocumentReader} {args : List String}
  {path page : String} {data : Option String} {escapeHtml : Bool}

theorem Holds.unique {document other : Json} (h : Holds read reader path document)
    (hother : Holds read reader path other) : document = other := by
  obtain ⟨content, hread, hdocument⟩ := h
  obtain ⟨_, hread', hdocument'⟩ := hother
  obtain rfl := Except.ok.inj (hread.symm.trans hread')
  exact Except.ok.inj (hdocument.symm.trans hdocument')

/-- The arguments come to one interface and one environment at most. -/
theorem Prepares.unique {parsed parsed' : Ui} {env env' : Value}
    (h : Prepares read reader args parsed env) (h' : Prepares read reader args parsed' env') :
    parsed = parsed' ∧ env = env' := by
  cases h with
  | page hothers hpage hparse =>
    cases h' with
    | page hothers' hpage' hparse' =>
      obtain ⟨rfl, -⟩ := List.cons.inj (hothers.symm.trans hothers')
      obtain rfl := hpage.unique hpage'
      exact ⟨congrArg Prod.fst (hparse.symm.trans hparse'), rfl⟩
    | pageWithData hothers' => cases hothers.symm.trans hothers'
  | pageWithData hothers hpage hdata hparse =>
    cases h' with
    | page hothers' => cases hothers.symm.trans hothers'
    | pageWithData hothers' hpage' hdata' hparse' =>
      obtain ⟨rfl, hrest⟩ := List.cons.inj (hothers.symm.trans hothers')
      obtain ⟨rfl, -⟩ := List.cons.inj hrest
      obtain rfl := hpage.unique hpage'
      obtain rfl := hdata.unique hdata'
      exact ⟨congrArg Prod.fst (hparse.symm.trans hparse'), rfl⟩

/-- A flag that stands once is all that taking it out takes out. -/
theorem erase_noEscapeFlag (h : args.count noEscapeFlag ≤ 1) :
    args.erase noEscapeFlag = others args := by
  induction args with
  | nil => rfl
  | cons arg rest ih =>
    by_cases harg : arg = noEscapeFlag
    · subst harg
      rw [List.count_cons_self] at h
      have hrest : noEscapeFlag ∉ rest := List.count_eq_zero.1 (by omega)
      rw [List.erase_cons_head, others, List.filter_cons_of_neg (by simp)]
      refine (List.filter_eq_self.2 fun other hm => ?_).symm
      exact bne_iff_ne.2 (ne_of_mem_of_not_mem hm hrest)
    · rw [List.count_cons_of_ne harg] at h
      rw [List.erase_cons_tail (by simpa using harg), ih h, others, others,
        List.filter_cons_of_pos (by simpa using harg)]

theorem run_of_named (data : Option String) (hflag : args.count noEscapeFlag ≤ 1)
    (h : others args = page :: data.toList) (limit : Nat) :
    run read reader limit args =
      report page (renderFiles read reader limit (decide (noEscapeFlag ∉ args)) page data) := by
  have hescape : (!args.contains noEscapeFlag) = decide (noEscapeFlag ∉ args) := by simp
  unfold run
  rw [erase_noEscapeFlag hflag, h, hescape]
  cases data <;> rfl

theorem run_of_unnamed (hflag : args.count noEscapeFlag ≤ 1)
    (h : ∀ page (data : Option String), others args ≠ page :: data.toList) (limit : Nat) :
    run read reader limit args = ⟨1, "", printed usage⟩ := by
  unfold run
  rw [erase_noEscapeFlag hflag]
  match hothers : others args with
  | [] => rfl
  | [page] => exact absurd hothers (h page none)
  | [page, data] => exact absurd hothers (h page (some data))
  | _ :: _ :: _ :: _ => rfl

theorem readDocument_eq_ok_iff {document : Json} :
    readDocument read reader path = .ok document ↔ Holds read reader path document := by
  unfold readDocument Holds
  cases read path with
  | error fault => simp [Except.mapError, bind, Except.bind]
  | ok content =>
    cases hread : reader content with
    | error fault => simp [Except.mapError, bind, Except.bind, hread]
    | ok found => simp [Except.mapError, bind, Except.bind, hread]

theorem readEnv_some_eq_ok_iff {env : Value} : readEnv read reader (some path) = .ok env ↔
    ∃ document, Holds read reader path document ∧ .ofJson document = env := by
  simp only [readEnv, ← readDocument_eq_ok_iff]
  cases readDocument read reader path <;> simp [Except.map]

/-- The text of what is rendered, as the command line takes it. -/
def rendering (limit : Nat) (parsed : Ui) (env : Value) : Except Trouble String :=
  ((parsed.render limit env).mapError Trouble.stopped).map Value.text

theorem renderFiles_of_parse {declaration : Json} {env : Value} {parsed : Ui} {root : Invocation}
    (hpage : readDocument read reader page = .ok declaration)
    (hdata : readEnv read reader data = .ok env)
    (hparse : (start escapeHtml).parse declaration = (parsed, .ok root)) (limit : Nat) :
    renderFiles read reader limit escapeHtml page data = rendering limit parsed env := by
  simp only [renderFiles, rendering, hpage, hdata, hparse, bind, Except.bind, Except.mapError]
  cases parsed.render limit env <;> rfl

/-- Files are read and the declaration is parsed before anything is rendered, and what fails
there fails in the same way whatever the limit is. -/
theorem renderFiles_cases (read : String → Except ReadFault String) (reader : DocumentReader)
    (escapeHtml : Bool) (page : String) (data : Option String) :
    (∃ declaration env parsed root, readDocument read reader page = .ok declaration ∧
      readEnv read reader data = .ok env ∧
      (start escapeHtml).parse declaration = (parsed, .ok root)) ∨
    ∃ trouble, ∀ limit, renderFiles read reader limit escapeHtml page data = .error trouble := by
  cases hpage : readDocument read reader page with
  | error trouble =>
    refine .inr ⟨trouble, fun limit => ?_⟩
    rw [renderFiles, hpage]
    rfl
  | ok declaration =>
    cases hdata : readEnv read reader data with
    | error trouble =>
      refine .inr ⟨trouble, fun limit => ?_⟩
      rw [renderFiles, hpage, hdata]
      rfl
    | ok env =>
      rcases hparse : (start escapeHtml).parse declaration with ⟨parsed, answer⟩
      cases answer with
      | error fault =>
        refine .inr ⟨.stopped (.error fault), fun limit => ?_⟩
        simp only [renderFiles, hpage, hdata, hparse, bind, Except.bind, Except.mapError]
      | ok root => exact .inl ⟨declaration, env, parsed, root, rfl, rfl, hparse⟩

/-- With a tree and an environment there, the command line reports what their rendering comes to. -/
theorem run_of_prepares (hflag : args.count noEscapeFlag ≤ 1) {parsed : Ui} {env : Value}
    (h : Prepares read reader args parsed env) :
    ∃ page, ∀ limit, run read reader limit args = report page (rendering limit parsed env) := by
  cases h with
  | @page page declaration _ root hothers hpage hparse =>
    refine ⟨page, fun limit => ?_⟩
    rw [run_of_named none hflag hothers,
      renderFiles_of_parse (readDocument_eq_ok_iff.2 hpage) rfl hparse]
  | @pageWithData page data declaration document _ root hothers hpage hdata hparse =>
    have henv : readEnv read reader (some data) = .ok (.ofJson document) :=
      readEnv_some_eq_ok_iff.2 ⟨document, hdata, rfl⟩
    refine ⟨page, fun limit => ?_⟩
    rw [run_of_named (some data) hflag hothers,
      renderFiles_of_parse (readDocument_eq_ok_iff.2 hpage) henv hparse]

/-- Without them it fails before it renders, and says the same whatever the limit is. -/
theorem run_of_not_prepares (hflag : args.count noEscapeFlag ≤ 1)
    (h : ¬ ∃ parsed env, Prepares read reader args parsed env) :
    ∃ stderr, ∀ limit, run read reader limit args = ⟨1, "", stderr⟩ := by
  by_cases hnamed : ∃ page, ∃ data : Option String, others args = page :: data.toList
  · obtain ⟨page, data, hothers⟩ := hnamed
    rcases renderFiles_cases read reader (decide (noEscapeFlag ∉ args)) page data with
      ⟨declaration, env, parsed, root, hpage, hdata, hparse⟩ | ⟨trouble, htrouble⟩
    · refine absurd ⟨parsed, env, ?_⟩ h
      have hpage := readDocument_eq_ok_iff.1 hpage
      cases data with
      | none =>
        obtain rfl := Except.ok.inj hdata
        exact .page hothers hpage hparse
      | some path =>
        obtain ⟨document, hdocument, rfl⟩ := readEnv_some_eq_ok_iff.1 hdata
        exact .pageWithData hothers hpage hdocument hparse
    · exact ⟨_, fun limit => by rw [run_of_named data hflag hothers, htrouble]; rfl⟩
  · -- no file at all, or three and more
    exact ⟨_, run_of_unnamed hflag fun page data hothers => hnamed ⟨page, data, hothers⟩⟩

theorem run_of_render (hflag : args.count noEscapeFlag ≤ 1) {parsed : Ui} {env rendered : Value}
    (h : Prepares read reader args parsed env) {limit : Nat}
    (hrender : parsed.render limit env = .ok rendered) :
    run read reader limit args = ⟨0, rendered.text ++ "\n", ""⟩ := by
  obtain ⟨page, hrun⟩ := run_of_prepares hflag h
  rw [hrun, rendering, hrender]
  simp [Except.mapError, Except.map, report, printed]

theorem exitCode_eq_zero_iff (hflag : args.count noEscapeFlag ≤ 1) (limit : Nat) :
    (run read reader limit args).exitCode = 0 ↔ ∃ parsed env rendered,
      Prepares read reader args parsed env ∧ parsed.render limit env = .ok rendered := by
  constructor
  · intro hcode
    by_cases h : ∃ parsed env, Prepares read reader args parsed env
    · obtain ⟨parsed, env, h⟩ := h
      obtain ⟨page, hrun⟩ := run_of_prepares hflag h
      rw [hrun, rendering] at hcode
      cases hrender : parsed.render limit env with
      | ok rendered => exact ⟨parsed, env, rendered, h, hrender⟩
      | error stop =>
        rw [hrender] at hcode
        exact absurd hcode Nat.one_ne_zero
    · obtain ⟨stderr, hrun⟩ := run_of_not_prepares hflag h
      rw [hrun] at hcode
      exact absurd hcode Nat.one_ne_zero
  · rintro ⟨parsed, env, rendered, h, hrender⟩
    rw [run_of_render hflag h hrender]

/-- A report is a text and nothing else, or a failure that shows no part of one. -/
theorem stdout_eq_empty (limit : Nat) (h : (run read reader limit args).exitCode ≠ 0) :
    (run read reader limit args).exitCode = 1 ∧ (run read reader limit args).stdout = "" := by
  have hreport : ∀ page outcome, (report page outcome).exitCode ≠ 0 →
      (report page outcome).exitCode = 1 ∧ (report page outcome).stdout = "" := by
    intro page outcome hcode
    cases outcome with
    | ok text => exact absurd rfl hcode
    | error trouble => exact ⟨rfl, rfl⟩
  unfold run at h ⊢
  dsimp only at h ⊢
  split at h
  · exact hreport _ _ h
  · exact hreport _ _ h
  · exact ⟨rfl, rfl⟩

/-- Only the files and whether the flag is there matter. -/
theorem run_eq_of_others {arranged : List String} (hflag : args.count noEscapeFlag ≤ 1)
    (harranged : arranged.count noEscapeFlag ≤ 1) (hothers : others arranged = others args)
    (hmem : noEscapeFlag ∈ arranged ↔ noEscapeFlag ∈ args) (limit : Nat) :
    run read reader limit arranged = run read reader limit args := by
  have hescape : arranged.contains noEscapeFlag = args.contains noEscapeFlag := by simp [hmem]
  unfold run
  rw [erase_noEscapeFlag hflag, erase_noEscapeFlag harranged, hothers, hescape]

/-- What is rendered within a limit is reported in the same way under any higher one. -/
theorem run_eq_of_le (hflag : args.count noEscapeFlag ≤ 1) {limit higher : Nat}
    (hle : limit ≤ higher)
    (h : ∀ parsed env, Prepares read reader args parsed env →
      parsed.render limit env ≠ .error .tooDeep) :
    run read reader higher args = run read reader limit args := by
  by_cases hp : ∃ parsed env, Prepares read reader args parsed env
  · obtain ⟨parsed, env, hp⟩ := hp
    obtain ⟨page, hrun⟩ := run_of_prepares hflag hp
    rw [hrun, hrun, rendering, rendering, Ui.render_eq_of_le hle (h parsed env hp)]
  · obtain ⟨stderr, hrun⟩ := run_of_not_prepares hflag hp
    rw [hrun, hrun]

end

/-- The command line agrees with the library, for all files, every reader of documents and every
limit. A flag that stands once may stand anywhere. The exit code is 0 exactly when the files can
be read and parsed, the declaration is accepted and its rendering returns a value, and then the
text of that value is printed with a line break after it and nothing else is. Every other run ends
with 1 and prints no part of a page. A run that stays within a limit is the same under any higher
one, so the limit is of no account where rendering ends. -/
theorem agrees_with_library (read : String → Except ReadFault String) (reader : DocumentReader)
    (args : List String) (hflag : args.count noEscapeFlag ≤ 1) (limit : Nat) :
    (∀ arranged : List String, arranged.count noEscapeFlag ≤ 1 → others arranged = others args →
      (noEscapeFlag ∈ arranged ↔ noEscapeFlag ∈ args) →
        run read reader limit arranged = run read reader limit args) ∧
    ((run read reader limit args).exitCode = 0 ↔ ∃ parsed env rendered,
      Prepares read reader args parsed env ∧ parsed.render limit env = .ok rendered) ∧
    (∀ parsed env rendered, Prepares read reader args parsed env →
      parsed.render limit env = .ok rendered →
        run read reader limit args = ⟨0, rendered.text ++ "\n", ""⟩) ∧
    ((run read reader limit args).exitCode ≠ 0 →
      (run read reader limit args).exitCode = 1 ∧ (run read reader limit args).stdout = "") ∧
    ((∀ parsed env, Prepares read reader args parsed env →
      parsed.render limit env ≠ .error .tooDeep) →
        ∀ higher, limit ≤ higher → run read reader higher args = run read reader limit args) := by
  refine ⟨fun arranged harranged hothers hmem => ?_, exitCode_eq_zero_iff hflag limit, ?_,
    stdout_eq_empty limit, fun h higher hle => run_eq_of_le hflag hle h⟩
  · exact run_eq_of_others hflag harranged hothers hmem limit
  · intro parsed env rendered h hrender
    exact run_of_render hflag h hrender

/-- The text and the document of a page that shows a name. -/
def deskPage : String × Json :=
  ("\x7b\"$text\": \x7b\"$bind\": \"name\"\x7d\x7d",
    .object [("$text", .object [("$bind", .string "name")])])

/-- The text and the document of data with that name. -/
def deskData : String × Json :=
  ("\x7b\"name\": \"<Ada>\"\x7d", .object [("name", .string "<Ada>")])

def desk : Directory where
  files := [("page.json", deskPage.1), ("data.json", deskData.1)]

/-- Reads the two texts and no others. -/
def deskReader : DocumentReader := fun content =>
  match [deskPage, deskData].lookup content with
  | some document => .ok document
  | none => .error "not a document"

/-- The flag stands between the files or before them, and data alone are no page. -/
theorem desk_agrees :
    let args := ["page.json", noEscapeFlag, "data.json"]
    args.count noEscapeFlag ≤ 1 ∧
      run desk.read deskReader 1 [noEscapeFlag, "page.json", "data.json"] =
        run desk.read deskReader 1 args ∧
      run desk.read deskReader 1 args = ⟨0, "<Ada>\n", ""⟩ ∧
      (∀ higher, 1 ≤ higher →
        run desk.read deskReader higher args = run desk.read deskReader 1 args) ∧
      (run desk.read deskReader 1 ["data.json"]).exitCode = 1 ∧
      (run desk.read deskReader 1 ["data.json"]).stdout = "" := by
  intro args
  have hflag : args.count noEscapeFlag ≤ 1 := by decide
  have hpage : Holds desk.read deskReader "page.json" deskPage.2 := ⟨deskPage.1, rfl, rfl⟩
  have hdata : Holds desk.read deskReader "data.json" deskData.2 := ⟨deskData.1, rfl, rfl⟩
  obtain ⟨parsed, root, hparse⟩ :
      ∃ parsed root, (library args).parse deskPage.2 = (parsed, .ok root) := ⟨_, _, rfl⟩
  have hprepares := Prepares.pageWithData (by decide) hpage hdata hparse
  have hrender : parsed.render 1 (.ofJson deskData.2) = .ok (.string "<Ada>") := by
    obtain rfl : _ = parsed := congrArg Prod.fst hparse
    rfl
  obtain ⟨harranged, -, hshows, -, hstable⟩ :=
    agrees_with_library desk.read deskReader args hflag 1
  obtain ⟨-, hzero, -, hfails, -⟩ :=
    agrees_with_library desk.read deskReader ["data.json"] (by decide) 1
  refine ⟨hflag, harranged _ (by decide) (by decide) (by decide), ?_, hstable ?_, hfails ?_⟩
  · exact hshows _ _ _ hprepares hrender
  · intro other env hother
    obtain ⟨rfl, rfl⟩ := hother.unique hprepares
    rw [hrender]
    simp
  · intro hcode
    obtain ⟨_, _, _, hother, -⟩ := hzero.1 hcode
    cases hother with
    | page hothers hheld haccepted =>
      obtain ⟨rfl, -⟩ := List.cons.inj hothers
      obtain rfl := hheld.unique hdata
      cases haccepted
    | pageWithData hothers => cases hothers

end CommandLine

end DeclaredUi
