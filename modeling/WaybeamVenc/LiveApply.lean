import WaybeamVenc.Resumption
import WaybeamVenc.SetQuery

namespace WaybeamVenc.LiveApply

open CNumber Config FieldTable SetQuery Resumption Prog

/-- The members of VencApplyCallbacks that a set may call. -/
inductive Callback
  | bitrate
  | fps
  | gop
  | qpDelta
  | roiQp
  | exposure
  | gainMax
  | awbMode
  | verbose
  | outputEnabled
  | server
  | mute
deriving DecidableEq

inductive ApplyCall
  | bitrate (kbps : UInt32)
  | fps (fps : UInt32)
  | gop (frames : UInt32)
  | qpDelta (delta : Int32)
  | roiQp (qp : Int32)
  | exposure (us : UInt32)
  | gainMax (gain : UInt32)
  | awbMode (manual : Bool) (ct : UInt32)
  | verbose (on : Bool)
  | outputEnabled (on : Bool)
  | server (uri : CString)
  | mute (on : Bool)
deriving DecidableEq

def ApplyCall.callback : ApplyCall → Callback
  | .bitrate _ => .bitrate
  | .fps _ => .fps
  | .gop _ => .gop
  | .qpDelta _ => .qpDelta
  | .roiQp _ => .roiQp
  | .exposure _ => .exposure
  | .gainMax _ => .gainMax
  | .awbMode .. => .awbMode
  | .verbose _ => .verbose
  | .outputEnabled _ => .outputEnabled
  | .server _ => .server
  | .mute _ => .mute

variable {D F : Type} [CFloat D F]

def pipelineCommonGopFrames (gopSeconds : D) (fps : UInt32) : UInt32 :=
  let gopFps := if fps = 0 then 30 else fps
  if CFloat.le gopSeconds (CFloat.ofRat 0) then 1
  else
    let gopFrames := CFloat.toUInt32 (CFloat.add (CFloat.mul gopSeconds (CFloat.ofUInt32 gopFps))
      (CFloat.ofRat (1 / 2)))
    if gopFrames < 1 then 1 else gopFrames

/-- A callback with the arguments that a config gives it. -/
def callbackArgs (cfg : VencConfig D F) : Callback → ApplyCall
  | .bitrate => .bitrate (cfg .video0Bitrate)
  | .fps => .fps (cfg .video0Fps)
  | .gop => .gop (pipelineCommonGopFrames (cfg .video0GopSize : D) (cfg .video0Fps))
  | .qpDelta => .qpDelta (cfg .video0QpDelta)
  | .roiQp => .roiQp (cfg .fpvRoiQp)
  | .exposure => .exposure ((cfg .ispExposure : UInt32) * 1000)
  | .gainMax => .gainMax (cfg .ispGainMax)
  | .awbMode => .awbMode ((cfg .ispAwbMode).1 = "ct_manual".toList) (cfg .ispAwbCt)
  | .verbose => .verbose (cfg .systemVerbose)
  | .outputEnabled => .outputEnabled (cfg .outgoingEnabled)
  | .server => .server (cfg .outgoingServer).1
  | .mute => .mute (cfg .audioMute)

/-- The table of callbacks, if it is there, and which of its members are not
null. -/
abbrev Callbacks := Option (Callback → Bool)

def sceneDetection (cfg : VencConfig D F) : Bool := 0 < (cfg .video0SceneThreshold : UInt16)

def liveGroupSupportedForCfg (cb : Callbacks) (cfg : VencConfig D F) (group : LiveApplyGroup)
    (touched : LiveBatchTouched) : Bool :=
  match cb with
  | none => false
  | some cb =>
    match group with
    | .bitrate => cb .bitrate
    | .videoTiming =>
      if touched.videoFps && !cb .fps then false
      else if !sceneDetection cfg && (touched.videoFps || touched.videoGop) && !cb .gop then false
      else if sceneDetection cfg && touched.videoGop then false
      else true
    | .qpDelta => cb .qpDelta
    | .roi => cb .roiQp
    | .exposure => cb .exposure
    | .gainMax => cb .gainMax
    | .awb => cb .awbMode
    | .verbose => cb .verbose
    | .outgoing =>
      if touched.outgoingServer && !cb .server then false
      else if touched.outgoingEnabled && !cb .outputEnabled then false
      else true
    | .mute => cb .mute

def liveGroupFields (group : LiveApplyGroup) (touched : LiveBatchTouched) : List Member :=
  match group with
  | .bitrate => [.video0Bitrate]
  | .videoTiming =>
    (if touched.videoFps then [.video0Fps] else []) ++ if touched.videoGop then [.video0GopSize] else []
  | .qpDelta => [.video0QpDelta]
  | .roi => [.fpvRoiEnabled, .fpvRoiQp, .fpvRoiSteps, .fpvRoiCenter]
  | .exposure => [.ispExposure]
  | .gainMax => [.ispGainMax]
  | .awb => (if touched.awbMode then [.ispAwbMode] else []) ++ if touched.awbCt then [.ispAwbCt] else []
  | .verbose => [.systemVerbose]
  | .outgoing =>
    (if touched.outgoingEnabled then [.outgoingEnabled] else []) ++
      if touched.outgoingServer then [.outgoingServer] else []
  | .mute => [.audioMute]

def copyLiveGroupFields (dst src : VencConfig D F) (group : LiveApplyGroup) (touched : LiveBatchTouched) :
    VencConfig D F :=
  (liveGroupFields group touched).foldl (fun dst m => dst.set m (src m)) dst

def buildLiveGroupConfig (base updates : VencConfig D F) (group : LiveApplyGroup) (touched : LiveBatchTouched) :
    VencConfig D F :=
  copyLiveGroupFields base updates group touched

/-- The callbacks that a group calls, in the order of the calls. -/
def liveGroupCallbacks (cfg : VencConfig D F) (group : LiveApplyGroup) (touched : LiveBatchTouched) :
    List Callback :=
  match group with
  | .bitrate => [.bitrate]
  | .videoTiming =>
    (if touched.videoFps then [.fps] else []) ++
      if !sceneDetection cfg && (touched.videoFps || touched.videoGop) then [.gop] else []
  | .qpDelta => [.qpDelta]
  | .roi => [.roiQp]
  | .exposure => [.exposure]
  | .gainMax => [.gainMax]
  | .awb => [.awbMode]
  | .verbose => [.verbose]
  | .outgoing =>
    if touched.outgoingEnabled && touched.outgoingServer then
      if cfg .outgoingEnabled then [.server, .outputEnabled] else [.outputEnabled, .server]
    else if touched.outgoingServer then [.server]
    else if touched.outgoingEnabled then [.outputEnabled]
    else []
  | .mute => [.mute]

/-- A program over the stored config that may call the backend. -/
abbrev Api (D F : Type) := Prog (VencConfig D F) ApplyCall

/-- Whether the group was applied. The config is stored first. -/
def applyLiveGroupForCfg (cb : Callbacks) (cfg : VencConfig D F) (group : LiveApplyGroup)
    (touched : LiveBatchTouched) : Api D F Bool := do
  set cfg
  if liveGroupSupportedForCfg cb cfg group touched then
    callAll ((liveGroupCallbacks cfg group touched).map (callbackArgs cfg))
  else pure false

/-- The actual config and whether the rollback is incomplete, one group further. -/
def rollbackLiveGroup (cb : Callbacks) (touched : LiveBatchTouched) (oldCfg : VencConfig D F)
    (s : VencConfig D F × Bool) (group : LiveApplyGroup) : Api D F (VencConfig D F × Bool) := do
  let rollbackCfg := buildLiveGroupConfig s.1 oldCfg group touched
  if ← applyLiveGroupForCfg cb rollbackCfg group touched then pure (rollbackCfg, s.2)
  else
    set s.1
    pure (s.1, true)

def rollbackLiveGroups (cb : Callbacks) (applied : List LiveApplyGroup) (current : LiveApplyGroup)
    (touched : LiveBatchTouched) (oldCfg actualCfg : VencConfig D F) : Api D F (VencConfig D F × Bool) :=
  (current :: applied.reverse).foldlM (rollbackLiveGroup cb touched oldCfg) (actualCfg, false)

def failedToApply (group : LiveApplyGroup) (rollbackIncomplete : Bool) : Reply D F :=
  .error 500 "internal_error" ("failed to apply live field group " ++ liveGroupName group ++
    if rollbackIncomplete then "; rollback incomplete" else "")

/-- The groups still to apply, behind those that are applied. -/
def applyLiveGroupSequence (cb : Callbacks) (touched : LiveBatchTouched) (oldCfg newCfg : VencConfig D F)
    (applied : List LiveApplyGroup) (actualCfg : VencConfig D F) :
    List LiveApplyGroup → Api D F (Except (Reply D F) (VencConfig D F))
  | [] => pure (.ok actualCfg)
  | group :: rest => do
    let groupCfg := buildLiveGroupConfig actualCfg newCfg group touched
    if ← applyLiveGroupForCfg cb groupCfg group touched then
      applyLiveGroupSequence cb touched oldCfg newCfg (applied ++ [group]) groupCfg rest
    else
      set actualCfg
      let s ← rollbackLiveGroups cb applied group touched oldCfg actualCfg
      set s.1
      pure (.error (failedToApply group s.2))

def preflightLiveGroupCallbacks (cb : Callbacks) (cfg : VencConfig D F) (batch : LiveBatch) :
    Except (Reply D F) Unit :=
  if ∀ group ∈ batch.groupOrder, liveGroupSupportedForCfg cb cfg group batch.touched then .ok ()
  else .error (.error 501 "not_implemented"
    (if batch.params.length = 1 then "apply callback not available"
      else "apply callback not available for one or more live fields"))

/-- The config to store, checked in full before the first callback. -/
def stageLiveSet (cb : Callbacks) (backend : String) (oldCfg : VencConfig D F) (batch : LiveBatch) :
    Except (Reply D F) (VencConfig D F) := do
  let newCfg ← stageParamsIntoCfg backend oldCfg batch.params
  preflightLiveGroupCallbacks cb newCfg batch
  pure newCfg

/-- The part of a live set that holds the mutex. -/
def applyLiveBatch (cb : Callbacks) (backend : String) (batch : LiveBatch) (singleResponse : Bool) :
    Api D F (Option (Reply D F)) := do
  let oldCfg ← get
  match stageLiveSet cb backend oldCfg batch with
  | .error reply => pure (some reply)
  | .ok newCfg =>
    match ← applyLiveGroupSequence cb batch.touched oldCfg newCfg [] oldCfg batch.groupOrder with
    | .error reply => pure (some reply)
    | .ok actualCfg =>
      set actualCfg
      pure (makeLiveSetResponse actualCfg batch.params singleResponse)

def applyLiveSetQuery (cb : Callbacks) (backend : String) (params : List SetQueryParam) (singleResponse : Bool) :
    Api D F (Option (Reply D F)) :=
  match collectLiveGroups backend params with
  | .error reply => pure (some reply)
  | .ok batch => do
    acquire
    let reply ← applyLiveBatch cb backend batch singleResponse
    release
    pure reply

/-- The part of a restart set that holds the mutex; its reinit request is not a
step here. -/
def storeRestartParam (backend : String) (param : SetQueryParam) : Api D F (Option (Reply D F)) := do
  let oldCfg ← get
  match stageParamsIntoCfg backend oldCfg [param] with
  | .error reply => pure (some reply)
  | .ok newCfg =>
    set newCfg
    pure ((paramValue newCfg param).map fun e => .single e.1 e.2 true)

def processRestartSetQuery (backend : String) (param : SetQueryParam) : Api D F (Option (Reply D F)) := do
  acquire
  let reply ← storeRestartParam backend param
  release
  pure reply

def missingParameter : Reply D F := .error 400 "invalid_request" "missing query parameter key=value"

def processSingleSetQuery (cb : Callbacks) (backend : String) (query : CString) : Api D F (Option (Reply D F)) :=
  match parseFirstQueryParam query with
  | none | some ([], _) => pure (some missingParameter)
  | some (key, value) =>
    match resolveSetQueryField backend (String.ofList key) with
    | .error reply => pure (some reply)
    | .ok (canonicalKey, field) =>
      let param := initSingleSetParam (String.ofList key) canonicalKey value field
      if field.mutability = .live then applyLiveSetQuery cb backend [param] true
      else processRestartSetQuery backend param

def processMultiLiveSetQuery (cb : Callbacks) (backend : String) (query : CString) :
    Api D F (Option (Reply D F)) :=
  match parseQueryParams query with
  | .error message => pure (some (.error 400 "invalid_request" message))
  | .ok params =>
    if params.length < 2 then processSingleSetQuery cb backend query
    else applyLiveSetQuery cb backend params false

def processSetQuery (cb : Callbacks) (backend : String) (query : CString) : Api D F (Option (Reply D F)) :=
  if '&' ∈ query then processMultiLiveSetQuery cb backend query else processSingleSetQuery cb backend query

/-- The answer to a request; none from the processing is an internal error. -/
def handleSet (cb : Callbacks) (backend : String) (query : CString) : Api D F (Reply D F) := do
  let reply ← processSetQuery cb backend query
  pure (reply.getD (.error 500 "internal_error" "out of memory"))

end WaybeamVenc.LiveApply
