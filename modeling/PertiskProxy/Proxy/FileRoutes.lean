import PertiskProxy.Proxy.UpstreamRequest
import PertiskProxy.Proxy.Upstreams

/-! `resolve_forward` strips the prefix of the route from the path in the URL of the plan.
-/

namespace PertiskProxy.Edge

open List

/-- Two texts that meet where an element ends. -/
def MeetAtElement (left right : Text) : Prop :=
  (left = [] ∨ left.getLast? = some '/') ∨ right = [] ∨ right.head? = some '/'

theorem pathElements_append (meet : MeetAtElement left right) :
    pathElements (left ++ right) = pathElements left ++ pathElements right := by
  have nothing : pathElements [] = [] := rfl
  rcases meet with (rfl | ends) | rfl | starts
  · rfl
  · obtain ⟨base, rfl⟩ := getLast?_eq_some_iff.mp ends
    rw [append_assoc, singleton_append, pathElements_append_slash,
      pathElements_append_slash, nothing, append_nil]
  · rw [nothing, append_nil, append_nil]
  · obtain ⟨rest, rfl⟩ := head?_eq_some_iff.mp starts
    rw [pathElements_append_slash, pathElements_slash]

theorem escapes_append (meet : MeetAtElement left right) :
    Escapes (left ++ right) ↔ Escapes left ∨ Escapes right := by
  unfold Escapes
  rw [← parent_mem_pathElements, ← parent_mem_pathElements, ← parent_mem_pathElements,
    pathElements_append meet, mem_append, mem_append]
  exact or_or_or_comm

/-- What `safe_file` takes from a path: the names below the root, unless it refuses. -/
def selected (path : Text) : Option (List Text) :=
  if Escapes path then none else some (fileNames path)

theorem safeFile_eq_selected (root urlPath : Text) :
    safeFile root urlPath = (selected (Text.before '?' urlPath)).map (FilePath.mk root) := by
  rw [safeFile_eq, selected]
  dsimp only
  split <;> rfl

theorem selected_eq_iff : selected left = selected right ↔ Escapes left ∧ Escapes right ∨
        ¬ Escapes left ∧ ¬ Escapes right ∧ fileNames left = fileNames right := by
  unfold selected
  by_cases refused : Escapes left <;> by_cases refuses : Escapes right <;> simp [refused, refuses]

theorem exists_first_element (path : Text) :
    ∃ part rest, path = part ++ rest ∧ '/' ∉ part ∧ (rest = [] ∨ rest.head? = some '/') := by
  cases found : Text.splitOnce '/' path with
  | none =>
    exact ⟨path, [], (append_nil path).symm, Text.splitOnce_eq_none.mp found, .inl rfl⟩
  | some halves =>
    obtain ⟨whole, plain⟩ := Text.splitOnce_eq_some.mp found
    exact ⟨halves.1, '/' :: halves.2, whole, plain, .inr rfl⟩

theorem exists_last_element (path : Text) :
    ∃ base part, path = base ++ part ∧ '/' ∉ part ∧ (base = [] ∨ base.getLast? = some '/') := by
  obtain ⟨part, rest, whole, plain, after⟩ := exists_first_element path.reverse
  refine ⟨rest.reverse, part.reverse, ?_, by simpa using plain, by simpa using after⟩
  rw [← reverse_append, ← whole, reverse_reverse]

theorem pathElements_of_plain (plain : '/' ∉ part) :
    pathElements part = if part = [] ∨ part = ".".toList then [] else [part] := by
  rw [pathElements, splitOn_eq_singleton plain]
  by_cases empty : part = []
  · simp [empty]
  · by_cases dot : part = ".".toList
    · simp [dot]
    · have other : part ≠ ['.'] := dot
      simp [empty, other]

/-- Where the prefix ends inside an element, the element loses its start. -/
theorem meetAtElement_of_fileNames (same : fileNames (lead ++ rest) = fileNames rest) :
    MeetAtElement lead rest := by
  obtain ⟨base, part, rfl, plain, before⟩ := exists_last_element lead
  obtain ⟨first, tail, rfl, simple, after⟩ := exists_first_element rest
  by_cases ends : part = []
  · subst ends
    exact .inl ((append_nil base).symm ▸ before)
  by_cases begins : first = []
  · subst begins
    exact .inr after
  exfalso
  have long : 2 ≤ (part ++ first).length := by
    have := length_pos_iff.mpr ends
    have := length_pos_iff.mpr begins
    rw [length_append]
    omega
  have merged : pathElements (part ++ first) = [part ++ first] := by
    rw [pathElements_of_plain (by simp [plain, simple]), if_neg]
    rintro (short | short) <;> rw [short] at long <;> exact absurd long (by decide)
  have elements : pathElements (base ++ part ++ (first ++ tail)) =
      pathElements base ++ [part ++ first] ++ pathElements tail := by
    rw [← append_assoc, append_assoc base, pathElements_append (.inr after),
      pathElements_append (.inl before), merged]
  unfold fileNames at same
  rw [elements, pathElements_append (.inr after), pathElements_of_plain simple, if_neg (by simp)]
    at same
  by_cases dot : first = ".".toList
  · have bare : first = [] ∨ first = ".".toList := .inr dot
    rw [if_pos bare, nil_append] at same
    split at same
    next nothing =>
      rw [nothing, append_nil, dot] at same
      have last := congrArg (fun names => names.getLast?.bind getLast?) same
      simp at last
    next =>
      have longer := congrArg length same
      simp at longer
      omega
  · have bare : ¬ (first = [] ∨ first = ".".toList) := not_or.mpr ⟨begins, dot⟩
    rw [if_neg bare, if_neg (by simp), append_cancel_right_eq] at same
    have last := congrArg getLast? same
    exact ends (by simpa using last)

/-- The prefix of a route makes no difference to the file: the path does not start with
it, `safe_file` refuses the path and the rest of it, or the prefix ends with an element
and names nothing but, where nothing follows, the `index.html` that is the default. -/
def Unaffected (lead path : Text) : Prop :=
  ∀ rest, path = lead ++ rest →
    Escapes path ∧ Escapes rest ∨
      ¬ Escapes path ∧ MeetAtElement lead rest ∧
        (pathElements lead = [] ∨
          pathElements lead = ["index.html".toList] ∧ pathElements rest = [])

theorem selected_append_iff (lead rest : Text) : selected (lead ++ rest) = selected rest ↔
      Escapes (lead ++ rest) ∧ Escapes rest ∨ ¬ Escapes (lead ++ rest) ∧ MeetAtElement lead rest ∧
          (pathElements lead = [] ∨
            pathElements lead = ["index.html".toList] ∧ pathElements rest = []) := by
  rw [selected_eq_iff]
  refine or_congr_right (and_congr_right fun allowed => ?_)
  have named : MeetAtElement lead rest → (fileNames (lead ++ rest) = fileNames rest ↔
        pathElements lead = [] ∨
          pathElements lead = ["index.html".toList] ∧ pathElements rest = []) := by
    intro meet
    unfold fileNames
    rw [pathElements_append meet]
    by_cases empty : pathElements rest = []
    · rw [empty, append_nil, if_pos rfl]
      by_cases nothing : pathElements lead = []
      · simp [nothing]
      · simp [nothing]
    · rw [if_neg empty, if_neg (mt (fun whole => (append_eq_nil_iff.mp whole).2) empty)]
      simp [empty]
  constructor
  · rintro ⟨-, same⟩
    have meet := meetAtElement_of_fileNames same
    exact ⟨meet, (named meet).mp same⟩
  · rintro ⟨meet, names⟩
    exact ⟨fun refuses => allowed ((escapes_append meet).mpr (.inr refuses)),
      (named meet).mpr names⟩

end PertiskProxy.Edge

namespace PertiskProxy.Proxy

open Edge FilterChain Http Router

/-- Stripping a prefix keeps the file exactly where the prefix makes no difference. -/
theorem RequestTarget.safeFile_stripped_iff (target : RequestTarget) (root lead : Text) :
    safeFile root target.path = safeFile root (stripPathPrefix target.text lead) ↔
      Unaffected lead target.path := by
  have whole : Text.before '?' target.path = target.path := Text.before_eq_self target.plain
  rw [stripPathPrefix_text, safeFile_eq_selected, safeFile_eq_selected, before_text, whole,
    (Option.map_injective (fun _ _ same => (FilePath.mk.inj same).2)).eq_iff]
  change _ = selected (strippedPath target.path lead) ↔ _
  unfold strippedPath
  cases found : Text.stripPrefix target.path lead with
  | none =>
    refine ⟨fun _ rest starts => ?_, fun _ => ?_⟩
    · rw [Text.stripPrefix_eq_some.mpr starts] at found
      cases found
    · simp [target.given]
  | some rest =>
    have starts := Text.stripPrefix_eq_some.mp found
    have slash : selected (if rest.isEmpty then "/".toList else rest) = selected rest := by
      split
      next empty =>
        rw [List.isEmpty_iff.mp empty]
        decide
      next => rfl
    dsimp only [Option.getD_some]
    rw [slash, starts, selected_append_iff]
    constructor
    · rintro names other same
      rw [← List.append_cancel_left same]
      exact names
    · exact fun unaffected => unaffected rest rfl

/-- A request on a route that serves files and strips a prefix, with its plan. -/
structure FileRequest where
  probeTls : Text → Nat → Bool
  table : RouteTable
  host : Text
  target : RequestTarget
  consul : ConsulState
  plan : ForwardPlan
  root : Text
  lead : Text
  resolved : (resolveForward probeTls table host target.text consul).1 = .ok plan
  files : plan.middleware.fileRoot = some root
  strips : plan.middleware.stripPrefix = some lead

/-- The answer of both planes for a file. -/
def fileAnswer : Option (FilePath × Bytes) → Answer
  | some (file, body) => .file (guessMime file) body
  | none => .fileNotFound

theorem fileVerdict_some (root : Text) (req : RequestHeader) (moment : Moment) :
    fileVerdict (some root) req moment =
      .stop (fileAnswer (readableFile root req.uri.path moment)) := by
  unfold fileVerdict
  dsimp only
  split <;> simp [*, fileAnswer]

/-- A moment with one file. -/
def onlyFile (table : RouteTable) (file : FilePath) : Moment :=
  { Moment.ofTable table with readFile := fun other => if other = file then some [] else none }

theorem fileAnswer_onlyFile (table : RouteTable) (root path : Text) (file : FilePath) :
    fileAnswer (readableFile root path (onlyFile table file)) = .fileNotFound ↔
      ¬ safeFile root path = some file := by
  unfold readableFile onlyFile
  cases safeFile root path with
  | none => simp [fileAnswer]
  | some other => by_cases same : other = file <;> simp [fileAnswer, same]

namespace FileRequest

variable (request : FileRequest)

/-- The path below the root in the URL of the plan. -/
def denoted : Text :=
  request.plan.upstreamUrl.drop ("file:".toList ++ request.root).length

theorem denoted_eq : request.denoted = stripPathPrefix request.target.text request.lead := by
  obtain ⟨route, -, planned⟩ := resolveForward_ok request.resolved
  have middleware := planRoute_middleware planned
  have files := request.files
  have strips := request.strips
  unfold plannedMiddleware at middleware
  unfold planRoute at planned
  cases kind : backendKind route.backend.address with
  | file root =>
    rw [kind] at middleware planned
    rw [middleware] at files strips
    have same : root = request.root := Option.some.inj files
    subst same
    have url := congrArg ForwardPlan.upstreamUrl (Except.ok.inj planned)
    unfold denoted
    rw [← url, List.drop_left, upstreamPath, strips]
  | _ =>
    rw [kind] at middleware
    rw [middleware, fileRoot_routeMiddleware] at files
    cases files

/-- On both planes the answer is the file that the URL of the plan denotes, whatever files
there are. -/
def ServedAsPlanned : Prop :=
  ∀ moment : Moment,
    (∀ (session : Session) (state : FilterState),
      (Gateway.files (session.aimedAt request.target) moment
        { state with ctx := state.ctx.withPlan request.plan }).1 =
        .stop (.answered (fileAnswer (readableFile request.root request.denoted moment)))) ∧
    ∀ req : RequestHeader, req.uri.pathAndQuery = request.target.text →
      fileVerdict request.plan.middleware.fileRoot req moment =
        .stop (fileAnswer (readableFile request.root request.denoted moment))

/-- The file of the plan is served exactly where the prefix makes no difference. -/
theorem served_as_planned_iff :
    request.ServedAsPlanned ↔ Unaffected request.lead request.target.path := by
  rw [← request.target.safeFile_stripped_iff request.root, ← request.denoted_eq]
  constructor
  · intro served
    refine Option.ext fun file => not_iff_not.mp ?_
    have answers := (served (onlyFile request.table file)).2
      { method := [], uri := { pathAndQuery := request.target.text } } rfl
    rw [request.files, fileVerdict_some, RequestTarget.path_of_named rfl] at answers
    rw [← fileAnswer_onlyFile request.table, Verdict.stop.inj answers, fileAnswer_onlyFile]
  intro same moment
  have readable : readableFile request.root request.denoted moment =
      readableFile request.root request.target.path moment := by
    rw [readableFile, ← same, readableFile]
  refine ⟨fun session state => ?_, fun req aimed => ?_⟩
  · have path : (session.aimedAt request.target).req.uri.path = request.target.path :=
      RequestTarget.path_of_named rfl
    unfold Gateway.files stateless
    rw [policyStage_fst]
    rw [show (state.ctx.withPlan request.plan).fileRoot = some request.root from request.files,
      fileVerdict_some, path, readable]
    rfl
  · rw [request.files, fileVerdict_some, RequestTarget.path_of_named aimed, readable]

def assets : Route where
  path := "/static"
  pathType := .lead
  backend := { address := "file:/srv", port := 0, useTls := false }
  middlewares := [.stripPrefix "/static"]

def siteTable : RouteTable := .fromRoutes (HashMap.empty.insert "a.example" [assets])

def stylesheet : FileRequest where
  probeTls := fun _ _ => false
  table := siteTable
  host := "a.example"
  target := ⟨"/static/app.css".toList, none, by decide, by decide⟩
  consul := {}
  plan :=
    { peerHost := "127.0.0.1", peerPort := 9, upstreamUrl := "file:/srv/app.css", useTls := false
      middleware :=
        { routeMiddleware siteTable "a.example" assets with fileRoot := some "/srv".toList } }
  root := "/srv"
  lead := "/static"
  resolved := by decide +kernel
  files := rfl
  strips := rfl

/-- The file of the plan is there, and both planes answer that there is none. -/
theorem stylesheet_not_found :
    let moment := onlyFile siteTable ⟨"/srv", ["app.css"]⟩
    fileAnswer (readableFile stylesheet.root stylesheet.denoted moment) =
        .file "text/css; charset=utf-8".toList [] ∧
      fileVerdict stylesheet.plan.middleware.fileRoot
        { method := "GET", uri := { pathAndQuery := stylesheet.target.text } } moment =
        .stop .fileNotFound ∧
      ¬ stylesheet.ServedAsPlanned := by
  have missing : fileVerdict stylesheet.plan.middleware.fileRoot
      { method := "GET", uri := { pathAndQuery := stylesheet.target.text } }
      (onlyFile siteTable ⟨"/srv", ["app.css"]⟩) = .stop .fileNotFound := by
    decide +kernel
  have present : fileAnswer (readableFile stylesheet.root stylesheet.denoted
      (onlyFile siteTable ⟨"/srv", ["app.css"]⟩)) =
        .file "text/css; charset=utf-8".toList [] := by
    decide +kernel
  refine ⟨present, missing, fun served => ?_⟩
  have answers := (served (onlyFile siteTable ⟨"/srv", ["app.css"]⟩)).2
    { method := "GET", uri := { pathAndQuery := stylesheet.target.text } } rfl
  exact absurd (missing.symm.trans answers) (by decide)

end FileRequest

end PertiskProxy.Proxy
