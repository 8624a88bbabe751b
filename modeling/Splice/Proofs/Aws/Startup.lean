import Splice.Proofs.Aws.Library
import Splice.Proofs.Invocation

/-! # Making the providers ready

A missing region is reported before missing credentials, and a region that the caller lays down is
used whatever the surroundings say. The main statement, `start_exact`, also says when an invocation
announces that its providers are ready.
-/

namespace Splice

namespace Aws

variable {sdk : Sdk} {profileRegion? : String → String → String → Option String}
  {settings : Settings} {surroundings other : Surroundings}

/-- The profile that is selected: the setting, else the variable, else the default one. -/
inductive SelectsProfile (settings : Settings) (surroundings : Surroundings) : String → Prop
  | setting {profile : String} : settings.profile = some profile →
      SelectsProfile settings surroundings profile
  | fromVariable {profile : String} : settings.profile = none →
      surroundings.valueOf? "AWS_PROFILE" = some profile →
      SelectsProfile settings surroundings profile
  | byDefault : settings.profile = none → surroundings.valueOf? "AWS_PROFILE" = none →
      SelectsProfile settings surroundings "default"

/-- The region that is found: the setting, else a variable, else the region of the profile that is
selected. -/
inductive FindsRegion (profileRegion? : String → String → String → Option String)
    (settings : Settings) (surroundings : Surroundings) : String → Prop
  | setting {region : String} : settings.region = some region →
      FindsRegion profileRegion? settings surroundings region
  | regionVariable {region : String} : settings.region = none →
      surroundings.valueOf? "AWS_REGION" = some region →
      FindsRegion profileRegion? settings surroundings region
  | defaultRegionVariable {region : String} : settings.region = none →
      surroundings.valueOf? "AWS_REGION" = none →
      surroundings.valueOf? "AWS_DEFAULT_REGION" = some region →
      FindsRegion profileRegion? settings surroundings region
  | profile {profile region : String} : settings.region = none →
      surroundings.valueOf? "AWS_REGION" = none →
      surroundings.valueOf? "AWS_DEFAULT_REGION" = none →
      SelectsProfile settings surroundings profile →
      profileRegion? surroundings.config surroundings.credentials profile = some region →
      FindsRegion profileRegion? settings surroundings region

private theorem selectsProfile_iff {profile : String} :
    SelectsProfile settings surroundings profile ↔
      (settings.profile.or (surroundings.valueOf? "AWS_PROFILE")).getD "default" = profile := by
  constructor
  · rintro (setting | ⟨unset, present⟩ | ⟨unset, absent⟩)
    · simp [setting]
    · simp [unset, present]
    · simp [unset, absent]
  · rintro rfl
    cases setting : settings.profile with
    | some profile => exact .setting setting
    | none =>
      cases present : surroundings.valueOf? "AWS_PROFILE" with
      | some profile => exact .fromVariable setting present
      | none => exact .byDefault setting present

namespace Sdk.LoadsRegion

theorem region_eq_some_iff (loads : sdk.LoadsRegion profileRegion?) {region : String} :
    (sdk.load settings.overrides surroundings).region = some region ↔
      FindsRegion profileRegion? settings surroundings region := by
  rw [loads.chain]
  simp only [Settings.overrides, Option.orElse_eq_orElse, Option.orElse_eq_or,
    Option.or_eq_some_iff]
  constructor
  · rintro (setting | ⟨unset, present | ⟨absent, default | ⟨noDefault, profile⟩⟩⟩)
    · exact .setting setting
    · exact .regionVariable unset present
    · exact .defaultRegionVariable unset absent default
    · exact .profile unset absent noDefault (selectsProfile_iff.mpr rfl) profile
  · rintro (setting | ⟨unset, present⟩ | ⟨unset, absent, default⟩ |
      ⟨unset, absent, noDefault, selects, profile⟩)
    · exact .inl setting
    · exact .inr ⟨unset, .inl present⟩
    · exact .inr ⟨unset, .inr ⟨absent, .inl default⟩⟩
    · obtain rfl := selectsProfile_iff.mp selects
      exact .inr ⟨unset, .inr ⟨absent, .inr ⟨noDefault, profile⟩⟩⟩

private theorem start_of_setting (loads : sdk.LoadsRegion profileRegion?) {region : String}
    (setting : settings.region = some region)
    (agrees : surroundings.AgreesApartFromRegion other) :
    start sdk settings other = start sdk settings surroundings := by
  have found (any : Surroundings) : (sdk.load settings.overrides any).region = some region :=
    loads.region_eq_some_iff.mpr (.setting setting)
  rw [start, start,
    loads.rest settings.overrides surroundings other agrees ((found _).trans (found _).symm)]

end Sdk.LoadsRegion

/-- Each way in which the providers are made ready or not, by what the SDK has loaded. -/
private theorem start_outcomes (loads : sdk.LoadsRegion profileRegion?) (settings : Settings)
    (surroundings : Surroundings) :
    let config := sdk.load settings.overrides surroundings
    let finds := FindsRegion profileRegion? settings surroundings
    (start sdk settings surroundings = .error .missingRegion ↔ ∀ region, ¬ finds region) ∧
    (start sdk settings surroundings = .error .missingCredentials ↔
      (∃ region, finds region) ∧ config.credentials = none) ∧
    (∀ detail, start sdk settings surroundings = .error (.credentials detail) ↔
      (∃ region, finds region) ∧ config.credentials = some (.error detail)) ∧
    ∀ loaded events, start sdk settings surroundings = .ok (loaded, events) ↔
      loaded = config ∧ config.credentials = some (.ok ()) ∧
        ∃ region, finds region ∧ events = [.providersReady region settings.profile] := by
  intro config finds
  simp only [config, finds, ← loads.region_eq_some_iff]
  cases found : (sdk.load settings.overrides surroundings).region with
  | none => simp [start, found]
  | some region =>
    cases brought : (sdk.load settings.overrides surroundings).credentials with
    | none => simp [start, found, brought]
    | some outcome =>
      cases outcome with
      | error detail => simp [start, found, brought]
      | ok ready => simp [start, found, brought, eq_comm]

end Aws

namespace Invocation

open CommandLine (Arguments)

variable {host : Host} {words : List String} {tree : FileTree} {arguments : Arguments}
  {document : String}

/-- The entries of a log that announce that the providers are ready. -/
def announcements (events : List Event) : List LogEntry :=
  (withMessage "AWS providers initialized" events).map Event.entry

/-- The announcement of the providers, as the log shows it. -/
def readyEntry (region : String) (profile : Option String) : LogEntry :=
  ⟨.debug, "AWS providers initialized",
    [("region", .text region), ("profile", .text (Text.quoteOption profile))]⟩

private theorem no_announcement_of_render? {outside : Outside} {client : Aws.Client} {t : Timeline}
    {step : Step String}
    (rendered : render? arguments (outside.circumstances client) document t = some step) :
    withMessage "AWS providers initialized" step.events = [] := by
  obtain ⟨rendering, finished, rfl⟩ := render?_eq_some_iff.mp rendered
  obtain ⟨visits, after, course, visited, rfl⟩ := Circumstances.render?_eq_some_iff.mp finished
  have quiet (visit : Visit) : withMessage "AWS providers initialized"
      (visit.adapterEvents (outside.circumstances client).gateway) = [] := by
    rw [withMessage, List.filter_eq_nil_iff]
    intro event logged
    obtain ⟨call, _, logged⟩ := List.mem_flatMap.mp logged
    obtain rfl : event = Aws.announcement call := List.mem_singleton.mp logged
    cases call <;> simp [Aws.announcement, Event.message]
  have warned (output : String) :
      withMessage "AWS providers initialized" (warning arguments output) = [] := by
    rw [warning]
    split <;> rfl
  rw [withMessage_append, warned, Circumstances.withMessage_report (by decide) course visited,
    List.append_nil, List.flatMap_eq_nil_iff]
  exact fun visit _ => quiet visit

private theorem announcements_logged (step : Step String) :
    withMessage "AWS providers initialized" (logged step) =
      withMessage "AWS providers initialized" step.events := by
  unfold logged
  split
  · conv_rhs => rw [← List.takeWhile_append_dropWhile (p := (!isCancellation ·)) (l := step.events)]
    rw [withMessage_append, withMessage_append]
    rfl
  · rfl

private theorem events_deliver (dest : Option String) (text : String) (events : List Event)
    (tree : FileTree) : (deliver dest text events tree).events = events := by
  unfold deliver
  split
  · rfl
  · split <;> rfl

private theorem announcements_run?_of_ready {config : Aws.Config} {region : String}
    {result : Result}
    (parsed : CommandLine.parse words (host.valueOf? "ENV") = .ok arguments)
    (read : tree.readText arguments.source = .ok document)
    (ready : Aws.start host.sdk (settings arguments) (host.surroundings tree) =
      .ok (config, [.providersReady region arguments.profile]))
    (ran : run? host words tree = some result) :
    announcements result.events = [readyEntry region arguments.profile] := by
  rw [run?_of_ready parsed read ready] at ran
  obtain ⟨shown, rendered, rfl⟩ := Option.map_eq_some_iff.mp ran
  rw [announcements, events_deliver, withMessage_append, announcements_logged,
    no_announcement_of_render? rendered]
  rfl

private theorem events_run?_of_not_ready
    (unready : ∀ arguments document, CommandLine.parse words (host.valueOf? "ENV") = .ok arguments →
      tree.readText arguments.source = .ok document →
      ∃ error, Aws.start host.sdk (settings arguments) (host.surroundings tree) = .error error) :
    ∃ result, run? host words tree = some result ∧ result.events = [] := by
  cases parsed : CommandLine.parse words (host.valueOf? "ENV") with
  | error error => exact ⟨_, run?_of_misuse parsed, rfl⟩
  | ok arguments =>
    cases read : tree.readText arguments.source with
    | error fault => exact ⟨_, run?_of_unread parsed read, rfl⟩
    | ok document =>
      obtain ⟨error, failed⟩ := unready arguments document parsed read
      exact ⟨_, run?_of_unready parsed read failed, rfl⟩

end Invocation

open Invocation (Host announcements readyEntry)

/-- The providers are not ready for want of a region exactly if none is found: not in the setting,
nor in a variable, nor in the profile that is selected. Failures about credentials come behind a
region. A region that the caller lays down is the one that is used, and then the variables for it
make no difference. An invocation announces its providers once when they are ready, and logs nothing
when they are not. -/
theorem Aws.start_exact {sdk : Sdk} {profileRegion? : String → String → String → Option String}
    (loads : sdk.LoadsRegion profileRegion?) :
    (∀ (settings : Settings) (surroundings : Surroundings),
      let config := sdk.load settings.overrides surroundings
      let finds := FindsRegion profileRegion? settings surroundings
      (∀ region, config.region = some region ↔ finds region) ∧
      (start sdk settings surroundings = .error .missingRegion ↔ ∀ region, ¬ finds region) ∧
      (start sdk settings surroundings = .error .missingCredentials ↔
        (∃ region, finds region) ∧ config.credentials = none) ∧
      (∀ detail, start sdk settings surroundings = .error (.credentials detail) ↔
        (∃ region, finds region) ∧ config.credentials = some (.error detail)) ∧
      (∀ loaded events, start sdk settings surroundings = .ok (loaded, events) ↔
        loaded = config ∧ config.credentials = some (.ok ()) ∧
          ∃ region, finds region ∧ events = [.providersReady region settings.profile]) ∧
      ∀ region, settings.region = some region →
        config.region = some region ∧
        ∀ other, surroundings.AgreesApartFromRegion other →
          start sdk settings other = start sdk settings surroundings) ∧
    ∀ (host : Host) (words : List String) (tree : FileTree), host.sdk = sdk →
      (∀ arguments document ready result,
        CommandLine.parse words (host.valueOf? "ENV") = .ok arguments →
        tree.readText arguments.source = .ok document →
        start sdk (Invocation.settings arguments) (host.surroundings tree) = .ok ready →
        Invocation.run? host words tree = some result →
        ∃ region, FindsRegion profileRegion? (Invocation.settings arguments)
            (host.surroundings tree) region ∧
          announcements result.events = [readyEntry region arguments.profile]) ∧
      ((∀ arguments document, CommandLine.parse words (host.valueOf? "ENV") = .ok arguments →
          tree.readText arguments.source = .ok document →
          ∃ error, start sdk (Invocation.settings arguments) (host.surroundings tree) =
            .error error) →
        ∃ result, Invocation.run? host words tree = some result ∧ result.events = []) := by
  constructor
  · intro settings surroundings config finds
    obtain ⟨noRegion, noCredentials, failed, ready⟩ := start_outcomes loads settings surroundings
    exact ⟨fun region => loads.region_eq_some_iff, noRegion, noCredentials, failed, ready,
      fun region setting => ⟨loads.region_eq_some_iff.mpr (.setting setting),
        fun _ agrees => loads.start_of_setting setting agrees⟩⟩
  · rintro host words tree rfl
    refine ⟨?_, Invocation.events_run?_of_not_ready⟩
    rintro arguments document ⟨config, events⟩ result parsed read ready ran
    obtain ⟨_, _, region, finds, rfl⟩ := ((start_outcomes loads _ _).2.2.2 config events).mp ready
    exact ⟨region, finds, Invocation.announcements_run?_of_ready parsed read ready ran⟩

/-- A region of the profile that a variable selects, one that is laid down over a variable, and an
invocation that announces its providers. -/
theorem Aws.start_exact_selected :
    let sdk := Library.sdk 2
    let finds := FindsRegion Library.profileRegion?
    let surroundings : Surroundings :=
      { vars := [("AWS_PROFILE", "ops")]
        config := "[default]\nregion = d\n[profile ops]\nregion = r\n"
        credentials := "[ops]\naws_access_key_id = i\naws_secret_access_key = k\n" }
    let varied : Surroundings :=
      { surroundings with vars := [("AWS_REGION", "v"), ("AWS_PROFILE", "ops")] }
    let host : Host :=
      { sdk := sdk, service := fun _ _ => .value "v"
        vars := [("AWS_REGION", "v"), ("AWS_ACCESS_KEY_ID", "i"), ("AWS_SECRET_ACCESS_KEY", "k")]
        configPath := "", credentialsPath := "" }
    let tree : FileTree := { entries := [(["t"], .file "x".toUTF8)] }
    finds {} surroundings "r" ∧ finds { profile := some "default" } surroundings "d" ∧
      start sdk { region := some "s" } varied = start sdk { region := some "s" } surroundings ∧
      ∃ result, Invocation.run? host ["-s", "t"] tree = some result ∧
        announcements result.events = [readyEntry "v" none] := by
  intro sdk finds surroundings varied host tree
  have loads := Library.loadsRegion_sdk 2
  obtain ⟨found, _⟩ := (start_exact loads).1 {} surroundings
  obtain ⟨otherFound, _⟩ := (start_exact loads).1 { profile := some "default" } surroundings
  obtain ⟨_, _, _, _, _, laidDown⟩ := (start_exact loads).1 { region := some "s" } surroundings
  have apart : surroundings.AgreesApartFromRegion varied := by
    refine ⟨fun name noRegion _ => ?_, rfl, rfl⟩
    simp [varied, surroundings, Surroundings.valueOf?, List.lookup_cons,
      beq_eq_false_iff_ne.mpr noRegion]
  have parsed : CommandLine.parse ["-s", "t"] (host.valueOf? "ENV") =
      .ok ⟨"t", none, "", none, none, none, false⟩ := by decide +kernel
  have read : tree.readText "t" = .ok "x" := by decide +kernel
  have set : finds {} (host.surroundings tree) "v" :=
    .regionVariable rfl (by decide +kernel)
  have brought : (sdk.load {} (host.surroundings tree)).credentials = some (.ok ()) := by
    decide +kernel
  obtain ⟨resolved, _, _, _, ready, _⟩ := (start_exact loads).1 {} (host.surroundings tree)
  have started : start sdk {} (host.surroundings tree) =
      .ok (_, [.providersReady "v" none]) := (ready _ _).mpr ⟨rfl, brought, "v", set, rfl⟩
  have exits : (Invocation.run? host ["-s", "t"] tree).isSome = true := by decide +kernel
  obtain ⟨result, ran⟩ := Option.isSome_iff_exists.mp exits
  obtain ⟨region, finds, announced⟩ :=
    ((start_exact loads).2 host ["-s", "t"] tree rfl).1 _ _ _ _ parsed read started ran
  obtain rfl : "v" = region :=
    Option.some.inj (((resolved "v").mpr set).symm.trans ((resolved region).mpr finds))
  exact ⟨(found "r").mp (by decide +kernel), (otherFound "d").mp (by decide +kernel),
    (laidDown "s" rfl).2 varied apart, result, ran, announced⟩

end Splice
