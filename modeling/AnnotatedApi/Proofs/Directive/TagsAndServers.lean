import AnnotatedApi.Directive.GeneralInfo
import Mathlib.Data.List.Induction

/-!
Tags and servers, read off the lines by position.

A line that names a tag starts a segment, which goes up to the next such line, and so does a line
that gives a server (`segments`).  A fold that adds an element where a segment starts and changes the
last element elsewhere gives one element for each segment, made of the lines of that segment
(`foldl_eq_segments`).  This is what the lines do to the tags (`tags_run`) and to the descriptions of
the servers (`descriptions_run`); the urls are left alone but for the first one (`urls_run`).  Main
statement: `tags_and_servers_by_position`.
-/

namespace AnnotatedApi

open Text Directive

/-! ### Segments -/

section

variable {σ α β γ : Type}

/-- What the elements start that start something, each with the elements behind it up to the next
one that does. -/
def segments (start? : α → Option β) : List α → List (β × List α)
  | [] => []
  | a :: rest =>
    match start? a with
    | some b => (b, rest.takeWhile (start? · |>.isNone)) :: segments start? rest
    | none => segments start? rest

/-- The value that the last element with a value gives. -/
def lastValue? (value? : α → Option β) (l : List α) : Option β :=
  l.reverse.findSome? value?

theorem lastValue?_concat (value? : α → Option β) (l : List α) (a : α) :
    lastValue? value? (l ++ [a]) = (value? a).or (lastValue? value? l) := by
  rw [lastValue?, List.reverse_append, List.reverse_singleton, List.singleton_append,
    List.findSome?_cons]
  cases value? a <;> rfl

theorem foldl_or (value? : α → Option β) (l : List α) (init : Option β) :
    l.foldl (fun v a => (value? a).or v) init = (lastValue? value? l).or init := by
  induction l using List.reverseRecOn with
  | nil => rfl
  | append_singleton l a ih =>
    rw [List.foldl_append, ih, List.foldl_cons, List.foldl_nil, lastValue?_concat, Option.or_assoc]

theorem segments_map_fst (start? : α → Option β) (l : List α) :
    (segments start? l).map (·.1) = l.filterMap start? := by
  induction l with
  | nil => rfl
  | cons a rest ih => cases hstart : start? a <;> simp [segments, hstart, ih]

/-- A fold that adds an element where a segment starts and changes the last one elsewhere. -/
theorem foldl_eq_segments (view : σ → List γ) {step : σ → α → σ} (start? : α → Option β)
    {new : β → γ} (amend : γ → α → γ) (Inv : σ → Prop) (hinv : ∀ s a, Inv s → Inv (step s a))
    (hnew : ∀ s a b, Inv s → start? a = some b → view (step s a) = view s ++ [new b])
    (hamend : ∀ s a front c, Inv s → start? a = none → view s = front ++ [c] →
      view (step s a) = front ++ [amend c a])
    (l : List α) {s : σ} {front : List γ} {c : γ} (hs : Inv s) (hview : view s = front ++ [c]) :
    view (l.foldl step s) = front ++ (l.takeWhile (start? · |>.isNone)).foldl amend c ::
      (segments start? l).map fun x => x.2.foldl amend (new x.1) := by
  induction l generalizing s front c with
  | nil => simpa [segments] using hview
  | cons a rest ih =>
    cases hstart : start? a with
    | some b =>
      -- The element so far is complete, and the rest goes on from the new one.
      have hnext := ih (hinv s a hs) (hnew s a b hs hstart)
      rw [hview] at hnext
      simpa [segments, hstart] using hnext
    | none =>
      have hnext := ih (hinv s a hs) (hamend s a front c hs hstart hview)
      simpa [segments, hstart] using hnext

theorem modifyLast_concat (f : α → α) (l : List α) (a : α) :
    modifyLast f (l ++ [a]) = l ++ [f a] := by
  induction l with
  | nil => rfl
  | cons b rest ih =>
    obtain ⟨c, more, hcons⟩ : ∃ c more, rest ++ [a] = c :: more :=
      List.exists_cons_of_ne_nil (by simp)
    rw [List.cons_append, hcons, modifyLast, ← hcons, ih, List.cons_append]
    simp

theorem map_modifyLast {f : α → α} {g : α → β} {h : β → β} (hf : ∀ a, g (f a) = h (g a))
    (l : List α) : (modifyLast f l).map g = modifyLast h (l.map g) := by
  induction l using List.reverseRecOn with
  | nil => rfl
  | append_singleton l a _ =>
    rw [modifyLast_concat, List.map_append, List.map_append, List.map_singleton,
      List.map_singleton, modifyLast_concat, hf]

theorem modifyLast_id (l : List α) : modifyLast (fun a => a) l = l := by
  induction l using List.reverseRecOn with
  | nil => rfl
  | append_singleton l a _ => exact modifyLast_concat _ l a

end

/-! ### What the lines say -/

namespace InfoLine

def tagName? : InfoLine → Option String
  | .tagName text => some text
  | _ => none

def tagDescription? : InfoLine → Option String
  | .tagDescription text => some text
  | _ => none

def tagDocsUrl? : InfoLine → Option String
  | .tagDocsUrl token => some token
  | _ => none

def tagDocsDescription? : InfoLine → Option String
  | .tagDocsDescription text => some text
  | _ => none

/-- The url of a server and the description on the same line. -/
def server? : InfoLine → Option (String × Option String)
  | .server url remark => some (url, remark)
  | _ => none

def serverDescription? : InfoLine → Option String
  | .serverDescription text => some text
  | _ => none

/-- The url and the description of the server that the line makes of an empty list of servers. -/
def firstServer? : InfoLine → Option (String × Option String)
  | .server url remark => some (url, remark)
  | .host token => some ("https://" ++ token, none)
  | _ => none

/-- What the line makes of the url of the first server. -/
def firstUrl (line : InfoLine) (url : String) : String :=
  match line with
  | .host token => "https://" ++ token
  | .basePath token => appendBasePath token url
  | .schemes text => (firstScheme? text).elim url (replaceScheme · url)
  | _ => url

/-- What the line makes of the tag that was named last. -/
def lastTag (line : InfoLine) (t : Tag) : Tag :=
  match line with
  | .tagDescription text => { t with description := some text }
  | .tagDocsUrl token => { t with externalDocs := some { t.externalDocs.getD {} with url := token } }
  | .tagDocsDescription text =>
    { t with externalDocs := some { t.externalDocs.getD {} with description := some text } }
  | _ => t

end InfoLine

/-- The documentation of a tag that has a url or a description of it. -/
def docsOf? : Option String → Option String → Option ExternalDocs
  | none, none => none
  | url, description => some { url := url.getD "", description }

theorem getD_docsOf? (url description : Option String) :
    (docsOf? url description).getD {} = { url := url.getD "", description } := by
  cases url <;> cases description <;> rfl

/-- The tag of a name and the lines that describe it. -/
def Tag.ofLines (name : String) (lines : List InfoLine) : Tag :=
  { name
    description := lastValue? (·.tagDescription?) lines
    externalDocs := docsOf? (lastValue? (·.tagDocsUrl?) lines)
      (lastValue? (·.tagDocsDescription?) lines) }

/-- A line replaces what an earlier one said, so the last one of each kind counts. -/
theorem foldl_lastTag (name : String) (lines : List InfoLine) :
    lines.foldl (fun t line => line.lastTag t) { name } = Tag.ofLines name lines := by
  induction lines using List.reverseRecOn with
  | nil => rfl
  | append_singleton lines line ih =>
    rw [List.foldl_append, ih, List.foldl_cons, List.foldl_nil]
    simp only [Tag.ofLines, lastValue?_concat]
    cases line with
    | tagDescription text => rfl
    | tagDocsUrl token =>
      simp only [InfoLine.lastTag, getD_docsOf?]
      rfl
    | tagDocsDescription text =>
      simp only [InfoLine.lastTag, getD_docsOf?]
      cases lastValue? (·.tagDocsUrl?) lines <;> rfl
    | _ =>
      simp only [InfoLine.lastTag, InfoLine.tagDescription?, InfoLine.tagDocsUrl?,
        InfoLine.tagDocsDescription?, Option.none_or]

/-! ### Runs -/

namespace InfoState

variable {st : InfoState}

/-- The effect of recognised lines. -/
def run (st : InfoState) (lines : List InfoLine) : InfoState :=
  lines.foldl (fun st line => line.apply st) st

theorem foldl_applyLine_eq_run (st : InfoState) (lines : List String) :
    lines.foldl applyLine st = st.run (lines.filterMap InfoLine.parse?) := by
  induction lines generalizing st with
  | nil => rfl
  | cons line rest ih =>
    rw [List.foldl_cons, ih, applyLine]
    cases hline : InfoLine.parse? line with
    | none => rw [List.filterMap_cons_none hline]
    | some read => rw [List.filterMap_cons_some hline, run, run, List.foldl_cons]

theorem run_append (first second : List InfoLine) :
    st.run (first ++ second) = (st.run first).run second :=
  List.foldl_append

/-! ### Tags -/

theorem hasTag_apply (line : InfoLine) (h : st.hasTag = true) :
    (line.apply st).hasTag = true := by
  cases line with
  | schemes text =>
    rw [InfoLine.apply]
    split <;> exact h
  | tagName text => rfl
  | tagDescription text => simp [InfoLine.apply, updateTag, h]
  | tagDocsUrl token => simp [InfoLine.apply, updateTagDocs, updateTag, h]
  | tagDocsDescription text => simp [InfoLine.apply, updateTagDocs, updateTag, h]
  | _ => exact h

theorem tags_apply_tagName (st : InfoState) {line : InfoLine} {name : String}
    (hstart : line.tagName? = some name) : (line.apply st).hasTag = true ∧
      (line.apply st).document.tags = st.document.tags ++ [{ name := name }] := by
  cases line with
  | tagName text =>
    cases hstart
    exact ⟨rfl, rfl⟩
  | _ => simp [InfoLine.tagName?] at hstart

/-- A line that names no tag changes the last one, if there is one. -/
theorem tags_apply (st : InfoState) {line : InfoLine} (hstart : line.tagName? = none) :
    (line.apply st).hasTag = st.hasTag ∧ (line.apply st).document.tags =
      if st.hasTag then modifyLast line.lastTag st.document.tags else st.document.tags := by
  have hkeep : (if st.hasTag then modifyLast (fun t => t) st.document.tags
      else st.document.tags) = st.document.tags := by
    rw [modifyLast_id, ite_self]
  cases line with
  | tagName text => simp [InfoLine.tagName?] at hstart
  | schemes text =>
    rw [InfoLine.apply]
    split <;> exact ⟨rfl, hkeep.symm⟩
  | tagDescription text =>
    rw [InfoLine.apply, updateTag]
    split <;> exact ⟨rfl, rfl⟩
  | tagDocsUrl token =>
    rw [InfoLine.apply, updateTagDocs, updateTag]
    split <;> exact ⟨rfl, rfl⟩
  | tagDocsDescription text =>
    rw [InfoLine.apply, updateTagDocs, updateTag]
    split <;> exact ⟨rfl, rfl⟩
  | _ => exact ⟨rfl, hkeep.symm⟩

/-- There is one tag for each line that names one. -/
theorem tags_run (lines : List InfoLine) (h : st.hasTag = false) :
    (st.run lines).document.tags = st.document.tags ++
      (segments (·.tagName?) lines).map fun x => Tag.ofLines x.1 x.2 := by
  induction lines generalizing st with
  | nil => exact (List.append_nil _).symm
  | cons line rest ih =>
    rw [run, List.foldl_cons, ← run]
    cases hstart : line.tagName? with
    | none =>
      obtain ⟨htag, htags⟩ := tags_apply st hstart
      rw [ih (htag.trans h), htags, h]
      simp [segments, hstart]
    | some name =>
      obtain ⟨htag, htags⟩ := tags_apply_tagName st hstart
      have hfold := foldl_eq_segments (fun st : InfoState => st.document.tags) (·.tagName?)
        (fun t line => line.lastTag t) (·.hasTag = true) (fun _ line => hasTag_apply line)
        (fun _ _ _ _ hstart => (tags_apply_tagName _ hstart).2)
        (fun _ _ _ _ htag hstart hview => by
          rw [(tags_apply _ hstart).2, if_pos htag, hview, modifyLast_concat]) rest htag htags
      rw [run, hfold]
      simp [segments, hstart, foldl_lastTag]

/-! ### Servers -/

/-- A server is its url and its description. -/
theorem servers_ext {l l' : List Server} (hurl : l.map (·.url) = l'.map (·.url))
    (hdescription : l.map (·.description) = l'.map (·.description)) : l = l' := by
  induction l generalizing l' with
  | nil => simpa using hurl.symm
  | cons s rest ih =>
    obtain ⟨s', rest', rfl⟩ : ∃ s' rest', l' = s' :: rest' :=
      List.exists_cons_of_ne_nil fun hnil => by simp [hnil] at hurl
    simp only [List.map_cons, List.cons.injEq] at hurl hdescription
    rw [ih hurl.2 hdescription.2]
    cases s
    cases s'
    simp_all

theorem map_url_modifyLast (d : Option String) (l : List Server) :
    (modifyLast (fun s => { s with description := d.or s.description }) l).map (·.url) =
      l.map (·.url) := by
  refine (map_modifyLast (h := fun u => u) ?_ l).trans (modifyLast_id _)
  exact fun _ => rfl

theorem map_description_modifyLast (d : Option String) (l : List Server) :
    (modifyLast (fun s => { s with description := d.or s.description }) l).map (·.description) =
      modifyLast d.or (l.map (·.description)) := by
  refine map_modifyLast ?_ l
  exact fun _ => rfl

theorem servers_updateTag (f : Tag → Tag) :
    (st.updateTag f).document.servers = st.document.servers := by
  rw [updateTag]
  split <;> rfl

/-- Of no servers a line makes one or none. -/
theorem servers_apply_of_nil (line : InfoLine) (h : st.document.servers = []) :
    (line.apply st).document.servers =
      (line.firstServer?.map fun x => { url := x.1, description := x.2 }).toList := by
  cases line with
  | server url remark => simp [InfoLine.apply, updateServers, h, InfoLine.firstServer?]
  | host token => simp [InfoLine.apply, updateServers, h, InfoLine.firstServer?]
  | basePath token => simp [InfoLine.apply, updateServers, h, modifyFirst, InfoLine.firstServer?]
  | schemes text =>
    rw [InfoLine.apply]
    split
    · simp [updateServers, h, modifyFirst, InfoLine.firstServer?]
    · exact h
  | serverDescription text =>
    simp [InfoLine.apply, updateServers, h, modifyLast, InfoLine.firstServer?]
  | tagDescription text => exact (servers_updateTag _).trans h
  | tagDocsUrl token => exact (servers_updateTag _).trans h
  | tagDocsDescription text => exact (servers_updateTag _).trans h
  | _ => exact h

theorem servers_apply_server {line : InfoLine} {url : String} {remark : Option String}
    (hserver : line.server? = some (url, remark)) :
    (line.apply st).document.servers =
      st.document.servers ++ [{ url, description := remark }] := by
  cases line with
  | server _ _ =>
    cases hserver
    rfl
  | _ => simp [InfoLine.server?] at hserver

/-- Any other line changes at most the url of the first server and the description of the last. -/
theorem servers_apply_of_ne_nil {line : InfoLine} (hserver : line.server? = none)
    (h : st.document.servers ≠ []) :
    (line.apply st).document.servers =
      modifyLast (fun s => { s with description := line.serverDescription?.or s.description })
        (modifyFirst (fun s => { s with url := line.firstUrl s.url }) st.document.servers) := by
  obtain ⟨first, others, hcons⟩ := List.exists_cons_of_ne_nil h
  have hkeep : st.document.servers = modifyLast (fun s => s) (modifyFirst (fun s => s)
      st.document.servers) := by
    rw [modifyLast_id, hcons, modifyFirst]
  cases line with
  | server _ _ => simp [InfoLine.server?] at hserver
  | host token =>
    rw [InfoLine.apply, updateServers, hcons]
    exact (modifyLast_id _).symm
  | basePath token =>
    exact (modifyLast_id _).symm
  | schemes text =>
    rw [InfoLine.apply]
    simp only [InfoLine.firstUrl]
    cases firstScheme? text with
    | some scheme => exact (modifyLast_id _).symm
    | none => exact hkeep
  | serverDescription text =>
    rw [InfoLine.apply, updateServers, hcons]
    rfl
  | tagDescription text => exact (servers_updateTag _).trans hkeep
  | tagDocsUrl token => exact (servers_updateTag _).trans hkeep
  | tagDocsDescription text => exact (servers_updateTag _).trans hkeep
  | _ => exact hkeep

/-- Of the urls only the first can change. -/
theorem urls_apply (line : InfoLine) {url : String} {others : List String}
    (h : st.document.servers.map (·.url) = url :: others) :
    (line.apply st).document.servers.map (·.url) =
      line.firstUrl url :: others ++ (line.server?.map (·.1)).toList := by
  cases hserver : line.server? with
  | some x =>
    have hurl : line.firstUrl url = url := by
      cases line with
      | server _ _ => rfl
      | _ => simp [InfoLine.server?] at hserver
    rw [servers_apply_server hserver, List.map_append, h, hurl]
    rfl
  | none =>
    obtain ⟨first, rest, hcons⟩ : ∃ first rest, st.document.servers = first :: rest :=
      List.exists_cons_of_ne_nil fun hnil => by simp [hnil] at h
    rw [hcons, List.map_cons] at h
    obtain ⟨rfl, rfl⟩ := List.cons.inj h
    rw [servers_apply_of_ne_nil hserver (by simp [hcons]), map_url_modifyLast, hcons]
    simp [modifyFirst]

/-- The servers of later lines have the urls given there. -/
theorem urls_run (lines : List InfoLine) {url : String} {others : List String}
    (h : st.document.servers.map (·.url) = url :: others) :
    (st.run lines).document.servers.map (·.url) =
      lines.foldl (fun u line => line.firstUrl u) url ::
        others ++ (lines.filterMap (·.server?)).map (·.1) := by
  induction lines generalizing st url others with
  | nil => simpa [run] using h
  | cons line rest ih =>
    rw [run, List.foldl_cons, ← run, ih (urls_apply line h)]
    cases hserver : line.server? <;> simp [hserver]

/-- A line describes the server made last. -/
theorem descriptions_apply {line : InfoLine} {front : List (Option String)} {d : Option String}
    (hserver : line.server? = none)
    (h : st.document.servers.map (·.description) = front ++ [d]) :
    (line.apply st).document.servers.map (·.description) =
      front ++ [line.serverDescription?.or d] := by
  obtain ⟨first, rest, hcons⟩ : ∃ first rest, st.document.servers = first :: rest :=
    List.exists_cons_of_ne_nil fun hnil => by simp [hnil] at h
  have hfirst : (modifyFirst (fun s => { s with url := line.firstUrl s.url })
      st.document.servers).map (·.description) = st.document.servers.map (·.description) := by
    rw [hcons]
    rfl
  rw [servers_apply_of_ne_nil hserver (by simp [hcons]), map_description_modifyLast, hfirst, h,
    modifyLast_concat]

theorem descriptions_run (lines : List InfoLine) {d : Option String}
    (hone : st.document.servers.map (·.description) = [d]) :
    (st.run lines).document.servers.map (·.description) =
      (lastValue? (·.serverDescription?) (lines.takeWhile (·.server?.isNone))).or d ::
        (segments (·.server?) lines).map fun x =>
          (lastValue? (·.serverDescription?) x.2).or x.1.2 := by
  have hfold := foldl_eq_segments
    (fun st : InfoState => st.document.servers.map (·.description)) (·.server?)
    (fun d line => line.serverDescription?.or d) (fun _ => True) (fun _ _ h => h)
    (fun st _ _ _ hserver => by
      rw [servers_apply_server hserver, List.map_append, List.map_singleton])
    (fun _ _ _ _ _ hserver hview => descriptions_apply hserver hview) lines trivial
    (hone.trans (List.nil_append _).symm)
  simpa only [run, foldl_or, List.nil_append] using hfold

theorem servers_run_of_nil {lines : List InfoLine} (h : st.document.servers = [])
    (hfirst : ∀ line ∈ lines, line.firstServer? = none) :
    (st.run lines).document.servers = [] := by
  induction lines generalizing st with
  | nil => exact h
  | cons line rest ih =>
    rw [run, List.foldl_cons, ← run]
    refine ih ?_ fun l hl => hfirst l (List.mem_cons_of_mem line hl)
    rw [servers_apply_of_nil line h, hfirst line List.mem_cons_self]
    rfl

/-- There is one server for the line that makes the first one and for each server line behind it. -/
theorem servers_run {before after : List InfoLine} {line : InfoLine} {url : String}
    {remark : Option String} (h : st.document.servers = [])
    (hbefore : ∀ line ∈ before, line.firstServer? = none)
    (hfirst : line.firstServer? = some (url, remark)) :
    (st.run (before ++ line :: after)).document.servers =
      { url := after.foldl (fun u line => line.firstUrl u) url
        description := (lastValue? (·.serverDescription?)
          (after.takeWhile (·.server?.isNone))).or remark } ::
      (segments (·.server?) after).map fun x =>
        { url := x.1.1, description := (lastValue? (·.serverDescription?) x.2).or x.1.2 } := by
  have hnil := servers_run_of_nil h hbefore
  have hone := servers_apply_of_nil line hnil
  rw [hfirst] at hone
  have hurl : (line.apply (st.run before)).document.servers.map (·.url) = url :: [] := by
    rw [hone]
    rfl
  have hdescription :
      (line.apply (st.run before)).document.servers.map (·.description) = [remark] := by
    rw [hone]
    rfl
  rw [run_append, run, List.foldl_cons, ← run]
  apply servers_ext
  · rw [urls_run after hurl]
    simp [← segments_map_fst, Function.comp_def]
  · rw [descriptions_run after hdescription]
    simp [Function.comp_def]

end InfoState

/-- **Tags and servers are read off by position.** -/
theorem InfoState.tags_and_servers_by_position (lines : List String) :
    let read := lines.filterMap InfoLine.parse?
    let d := (lines.foldl InfoState.applyLine { document := .initial }).document
    d.tags = (segments (·.tagName?) read).map (fun x => Tag.ofLines x.1 x.2) ∧
    ((∀ line ∈ read, line.firstServer? = none) → d.servers = []) ∧
    ∀ before line after url remark, read = before ++ line :: after →
      (∀ line ∈ before, line.firstServer? = none) → line.firstServer? = some (url, remark) →
      d.servers =
        { url := after.foldl (fun u line => line.firstUrl u) url
          description := (lastValue? (·.serverDescription?)
            (after.takeWhile (·.server?.isNone))).or remark } ::
        (segments (·.server?) after).map fun x =>
          { url := x.1.1, description := (lastValue? (·.serverDescription?) x.2).or x.1.2 } := by
  intro read d
  have hrun : d = (InfoState.run { document := .initial } read).document :=
    congrArg InfoState.document (foldl_applyLine_eq_run _ lines)
  rw [hrun]
  refine ⟨tags_run read rfl, servers_run_of_nil rfl, ?_⟩
  intro before line after url remark hread hbefore hfirst
  rw [hread]
  exact servers_run rfl hbefore hfirst

/-- The description in front of the first tag is dropped, and only the url of the host changes. -/
theorem InfoState.tags_and_servers_of_petstore :
    let lines := ["@tag.description Dropped", "@tag.name pets", "@tag.description Pets",
      "@host pets.example.com", "@server https://a.example.com Staging",
      "@tag.description All pets", "@basePath /v1", "@server.description Tests", "@schemes http",
      "@tag.name stores", "@server https://b.example.com Spare", "@tag.docs.url https://d.example.com"]
    let d := (lines.foldl InfoState.applyLine { document := .initial }).document
    d.tags = [{ name := "pets", description := some "All pets" },
      { name := "stores", externalDocs := some { url := "https://d.example.com" } }] ∧
    d.servers = [{ url := "http://pets.example.com/v1" },
      { url := "https://a.example.com", description := some "Tests" },
      { url := "https://b.example.com", description := some "Spare" }] := by
  intro lines d
  obtain ⟨htags, -, hservers⟩ := tags_and_servers_by_position lines
  let before : List InfoLine :=
    [.tagDescription "Dropped", .tagName "pets", .tagDescription "Pets"]
  let after : List InfoLine :=
    [.server "https://a.example.com" (some "Staging"), .tagDescription "All pets",
      .basePath "/v1", .serverDescription "Tests", .schemes "http", .tagName "stores",
      .server "https://b.example.com" (some "Spare"), .tagDocsUrl "https://d.example.com"]
  have hread : lines.filterMap InfoLine.parse? = before ++ .host "pets.example.com" :: after := by
    decide +kernel
  constructor
  · rw [htags, hread]
    decide
  · rw [hservers _ _ _ _ _ hread (by decide) rfl]
    decide

end AnnotatedApi
