import SceneGraph.Bytes.Basic
import SceneGraph.Log
import SceneGraph.Plan.Build
import SceneGraph.Space.Device
import SceneGraph.Table
import SceneGraph.Wgsl.Module

/-!
# Realizing spaces

Creates the objects of a space on a device: buffers with their contents, textures with their pixels,
samplers, and for every drawing pass a shader and a buffer for the frame. If a call fails, everything
created before is destroyed again. The contents of the buffers can be changed afterwards.
-/
set_option autoImplicit false

namespace SceneGraph

/-- Why a space cannot be realized or its buffers not be written. -/
inductive RealizeError where
  | buffer (name : String)
  | write (name : String)
  | texture (name : String)
  | missingUpload (name pixels : String)
  | upload (name : String)
  | sampler (name : String)
  | shader (pass : String)
  | noParams
  | params
  | frame (pass : String)
deriving Repr, DecidableEq

/-- The wording of a failure; `cause` is the wording of the device. -/
def RealizeError.message (cause : String) : RealizeError → String
  | .buffer name => "shaderspace: buffer " ++ Text.quoted name ++ ": " ++ cause
  | .write name => "shaderspace: write " ++ Text.quoted name ++ ": " ++ cause
  | .texture name => "shaderspace: texture " ++ Text.quoted name ++ ": " ++ cause
  | .missingUpload name pixels =>
    "shaderspace: texture " ++ Text.quoted name ++ ": missing upload buffer " ++ Text.quoted pixels
  | .upload name => "shaderspace: upload " ++ Text.quoted name ++ ": " ++ cause
  | .sampler name => "shaderspace: sampler " ++ Text.quoted name ++ ": " ++ cause
  | .shader pass => "shaderspace: pass " ++ Text.quoted pass ++ ": " ++ cause
  | .noParams => "shaderspace: no params buffer"
  | .params => cause
  | .frame pass => "shaderspace: frame " ++ Text.quoted pass ++ ": " ++ cause

/-- The objects of a realized space, by name or by the id of their pass. -/
structure Resources where
  textures : Table DeviceObject := []
  buffers : Table DeviceObject := []
  samplers : Table DeviceObject := []
  shaders : Table DeviceObject := []
  /-- The buffers for the frame. -/
  frames : Table DeviceObject := []

namespace Resources

/-- All objects, in the order in which they are destroyed. -/
def objects (r : Resources) : List DeviceObject :=
  (r.shaders ++ r.samplers ++ r.frames ++ r.buffers ++ r.textures).map Prod.snd

def destroyAll (d : Device) (os : List DeviceObject) : Device :=
  os.foldl (fun d o => (d.perform (.destroy o)).2) d

/-- Destroys all objects. Nothing is left to be destroyed a second time. -/
def destroy (r : Resources) (d : Device) : Resources × Device := ({}, destroyAll d r.objects)

end Resources

/-- What realizing works on. -/
structure Realization where
  device : Device
  resources : Resources := {}

/-- Computations that create and write objects. -/
abbrev RealizeM (α : Type) := ExceptT RealizeError (StateM Realization) α

namespace RealizeM

/-- Makes a call; a failure has the given cause. -/
def call (c : DeviceCall) (cause : RealizeError) : RealizeM Unit := do
  let st ← get
  let (ok, d) := st.device.perform c
  set { st with device := d }
  if ok then return else throw cause

/-- Creates an object; a failure has the given cause. -/
def create (c : DeviceCall) (kind : ObjectKind) (label : String) (cause : RealizeError) :
    RealizeM DeviceObject := do
  let st ← get
  let (o, d) := st.device.create c kind label
  set { st with device := d }
  match o with
  | some o => return o
  | none => throw cause

def record (f : Resources → Resources) : RealizeM Unit :=
  modify fun st => { st with resources := f st.resources }

/-- The bytes that a buffer takes: a multiple of four, and at least sixteen. -/
def bufferSize (data : ByteArray) : Nat := max ((data.size + 3) / 4 * 4) 16

/-- Creates a buffer and writes its contents. A buffer that cannot be written is destroyed at once. -/
def createBuffer (name : String) (usage : UInt32) (data : ByteArray) : RealizeM DeviceObject := do
  let o ← create (.createBuffer name (bufferSize data) usage) .buffer name (.buffer name)
  if data.size = 0 then return o
  let st ← get
  let (ok, d) := st.device.perform (.writeBuffer o data)
  if ok then
    set { st with device := d }
    return o
  else
    -- The buffer is in no table yet, so nothing else would destroy it.
    set { st with device := (d.perform (.destroy o)).2 }
    throw (.write name)

end RealizeM

namespace Space

open RealizeM

/-- Creates a buffer of a space. Pixels stay out: they go into their texture. -/
def realizeBuffer (b : BufferSpec) : RealizeM Unit := do
  if b.kind = .pixels then return
  let o ← createBuffer b.name b.usage b.data
  record fun r => { r with buffers := r.buffers.insert b.name o }

def realizeTexture (s : Space) (t : TextureSpec) : RealizeM Unit := do
  let o ← create (.createTexture t) .texture t.name (.texture t.name)
  -- Recorded before its pixels are written, so a failure there destroys it with the others.
  record fun r => { r with textures := r.textures.insert t.name o }
  if t.upload = "" then return
  match s.buffer? t.upload with
  | none => throw (.missingUpload t.name t.upload)
  | some b => call (.writeTexture o b.data t) (.upload t.name)

def realizeSampler (m : SamplerSpec) : RealizeM Unit := do
  let o ← create (.createSampler m) .sampler m.name (.sampler m.name)
  record fun r => { r with samplers := r.samplers.insert m.name o }

def frameLabel (p : PassSpec) : String := p.id ++ ":frame"

/-- Creates the shader and the frame buffer of a pass that draws. With `binary` the shader is compiled
first; `compiles` tells which shaders can be. -/
def realizePass (compiles : Shader → Bool) (binary : Bool) (p : PassSpec) : RealizeM Unit := do
  if !p.draws then return
  if binary && !compiles p.shader then throw (.shader p.id)
  let source : ShaderSource := if binary then .binary else .text p.shader.text
  let shader ← create (.createShader p.id source) .shader p.id (.shader p.id)
  record fun r => { r with shaders := r.shaders.insert p.id shader }
  let frame ← createBuffer (frameLabel p) (Usage.uniform ||| Usage.bufferCopyTarget) (frameUniform p 0 0)
  record fun r => { r with frames := r.frames.insert p.id frame }

/-- Runs a step for every item of a list. -/
def each {α : Type} (step : α → RealizeM Unit) : List α → RealizeM Unit
  | [] => pure ()
  | a :: rest => do
    step a
    each step rest

def realizeAll (s : Space) (compiles : Shader → Bool) (binary : Bool) : RealizeM Unit := do
  each realizeBuffer s.buffers
  each s.realizeTexture s.textures
  each realizeSampler s.samplers
  each (realizePass compiles binary) s.passes

/-- Realizes a space on a device, with a compiler that compiles some shaders. -/
def realizeWith (s : Space) (compiles : Shader → Bool) (binary : Bool) (d : Device) :
    Except RealizeError Resources × Device :=
  let (r, st) := (s.realizeAll compiles binary).run.run { device := d }
  match r with
  | .ok () => (.ok st.resources, st.device)
  | .error e => (.error e, (st.resources.destroy st.device).2)

/-- Realizes a space with the checks of shaders that are known here. -/
def realize (s : Space) (binary : Bool) (d : Device) : Except RealizeError Resources × Device :=
  s.realizeWith Shader.compiles binary d

def realized (r : Resources) : LogEntry where
  level := .debug
  message := "shaderspace: realized"
  fields := [("textures", toString r.textures.length), ("buffers", toString r.buffers.length),
    ("samplers", toString r.samplers.length), ("shaders", toString r.shaders.length)]

/-- The ids of the passes whose shaders are compiled, ascending, or the first pass that is refused. -/
def compiledShaders (s : Space) (compiles : Shader → Bool := Shader.compiles) : Except RealizeError (List String) := do
  let drawing := s.passes.filter PassSpec.draws
  match drawing.find? fun p => !compiles p.shader with
  | some p => throw (.shader p.id)
  | none => return (Table.ofList (drawing.map fun p => (p.id, ()))).keys

end Space

namespace Resources

def updateParams (r : Resources) (params : List Float32) (d : Device) : Except RealizeError Unit × Device :=
  match r.buffers.get? paramsBufferName with
  | none => (.error .noParams, d)
  | some o =>
    let (ok, d) := d.perform (.writeBuffer o (Bytes.ofFloats params))
    (if ok then .ok () else .error .params, d)

/-- Writes the frame of each of a list of passes. -/
def updateFrames (r : Resources) (time : Float32) (count : UInt32) (d : Device) :
    List PassSpec → Except RealizeError Unit × Device
  | [] => (.ok (), d)
  | p :: rest =>
    match r.frames.get? p.id with
    | none => r.updateFrames time count d rest
    | some o =>
      let (ok, d) := d.perform (.writeBuffer o (Space.frameUniform p time count))
      if ok then r.updateFrames time count d rest else (.error (.frame p.id), d)

/-- Writes the frame of every drawing pass of a space. -/
def updateFrame (r : Resources) (s : Space) (time : Float32) (count : UInt32) (d : Device) :
    Except RealizeError Unit × Device :=
  r.updateFrames time count d s.passes

end Resources

end SceneGraph
