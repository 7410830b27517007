import SceneGraph.Space.Basic

/-!
# Graphics devices

A device as the record of the calls made to it. Every call may fail, as the device decides from the
calls before it. An object is known by the number of the call that created it, so `Device.created`,
`Device.destroyed` and `Device.live` can be read off the record.
-/
set_option autoImplicit false

namespace SceneGraph

/-- What a device can hold. -/
inductive ObjectKind where
  | buffer
  | texture
  | sampler
  | shader
deriving Repr, DecidableEq

/-- An object of a device. -/
structure DeviceObject where
  kind : ObjectKind
  label : String
  /-- The number of the call that created the object. -/
  serial : Nat
deriving Repr, DecidableEq

/-- What a shader is created from. -/
inductive ShaderSource where
  | text (wgsl : String)
  | binary
deriving Repr, DecidableEq

/-- A call to a device. -/
inductive DeviceCall where
  | createBuffer (label : String) (size : Nat) (usage : UInt32)
  | createTexture (t : TextureSpec)
  | createSampler (s : SamplerSpec)
  | createShader (label : String) (source : ShaderSource)
  | writeBuffer (target : DeviceObject) (data : ByteArray)
  | writeTexture (target : DeviceObject) (data : ByteArray) (t : TextureSpec)
  | destroy (o : DeviceObject)

def DeviceCall.creates? : DeviceCall → Option (ObjectKind × String)
  | .createBuffer label _ _ => some (.buffer, label)
  | .createTexture t => some (.texture, t.name)
  | .createSampler s => some (.sampler, s.name)
  | .createShader label _ => some (.shader, label)
  | _ => none

/-- A call and whether it succeeded. -/
structure DeviceEvent where
  call : DeviceCall
  succeeded : Bool

/-- A device: the calls made to it and the rule by which further calls fail. -/
structure Device where
  events : List DeviceEvent := []
  fails : List DeviceEvent → DeviceCall → Bool := fun _ _ => false

namespace Device

/-- Makes a call. Destroying an object cannot fail. -/
def perform (d : Device) (c : DeviceCall) : Bool × Device :=
  let ok := match c with
    | .destroy _ => true
    | _ => !d.fails d.events c
  (ok, { d with events := d.events ++ [⟨c, ok⟩] })

def create (d : Device) (c : DeviceCall) (kind : ObjectKind) (label : String) :
    Option DeviceObject × Device :=
  let (ok, d') := d.perform c
  (if ok then some ⟨kind, label, d.events.length⟩ else none, d')

def createdBy (e : DeviceEvent × Nat) : Option DeviceObject :=
  if e.1.succeeded then e.1.call.creates?.map fun (kind, label) => ⟨kind, label, e.2⟩ else none

/-- The objects that were created, in order. -/
def created (d : Device) : List DeviceObject := d.events.zipIdx.filterMap createdBy

/-- The objects that were destroyed, in order. -/
def destroyed (d : Device) : List DeviceObject :=
  d.events.filterMap fun e => match e.call with
    | .destroy o => some o
    | _ => none

/-- The objects that were created and not destroyed. -/
def live (d : Device) : List DeviceObject := d.created.filter fun o => !d.destroyed.contains o

end Device

end SceneGraph
