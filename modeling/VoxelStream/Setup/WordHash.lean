import VoxelStream.Setup.Basic

/-!
# Word hashes

A *word hash* folds a list of 64-bit words into one.  Each word is added to the state by a
rotation, an exclusive or and a multiplication with an odd number.  For one state, different words
give different results, as each of the three steps can be undone.

The *key* of setup inputs is the hash of their words.  The required capacity is the last word but
one and the segmentation flag is the last, so two inputs with equal limits and layers differ at
most in the last two words.
-/

namespace VoxelStream

namespace WordHash

def factor : UInt64 := 0x517cc1b727220a95

/-- The word with its top five bits moved to the bottom. -/
def rotate (state : UInt64) : UInt64 := (state <<< 5) ||| (state >>> 59)

/-- The state after one more word. -/
def add (state word : UInt64) : UInt64 := (rotate state ^^^ word) * factor

/-- The hash of a list of words, from a given state. -/
def ofWords (state : UInt64) (words : List UInt64) : UInt64 := words.foldl add state

theorem ofWords_append (state : UInt64) (left right : List UInt64) :
    ofWords state (left ++ right) = ofWords (ofWords state left) right :=
  List.foldl_append

end WordHash

/-! ## Words of values -/

/-- The number whose bytes are given, least significant byte first. -/
def littleEndian : List UInt8 → UInt64
  | [] => 0
  | byte :: rest => byte.toUInt64 + 256 * littleEndian rest

/-- The words of fewer than eight bytes: four, two and one at a time. -/
def shortWords (bytes : List UInt8) : List UInt64 :=
  let afterFour := if 4 ≤ bytes.length then bytes.drop 4 else bytes
  let afterTwo := if 2 ≤ afterFour.length then afterFour.drop 2 else afterFour
  (if 4 ≤ bytes.length then [littleEndian (bytes.take 4)] else [])
    ++ (if 2 ≤ afterFour.length then [littleEndian (afterFour.take 2)] else [])
    ++ (if 1 ≤ afterTwo.length then [littleEndian (afterTwo.take 1)] else [])

/-- The words of a byte list: eight bytes at a time, then what is left. -/
def byteWords (bytes : List UInt8) : List UInt64 :=
  if 8 ≤ bytes.length then littleEndian (bytes.take 8) :: byteWords (bytes.drop 8)
  else shortWords bytes
termination_by bytes.length
decreasing_by rw [List.length_drop]; omega

/-- The words of a text: its bytes and a closing word that no text contains. -/
def textWords (text : String) : List UInt64 := byteWords text.toUTF8.data.toList ++ [0xff]

def Layer.words (layer : Layer) : List UInt64 :=
  textWords layer.name
    ++ [UInt64.ofNat layer.elementClass.ordinal, layer.byteCount.toUInt64,
        layer.isSegmentation.toUInt64]

namespace SetupInputs

/-- The words of the limits and the layers. -/
def contextWords (inputs : SetupInputs) : List UInt64 :=
  [inputs.limits.maxTextureDimension.toUInt64, inputs.limits.maxBoundTextures.toUInt64,
      UInt64.ofNat inputs.layers.length]
    ++ inputs.layers.flatMap Layer.words

/-- The key of the inputs: the hash of the context, the required capacity and the flag. -/
def key (inputs : SetupInputs) : UInt64 :=
  WordHash.ofWords 0
    (inputs.contextWords ++ [inputs.required.toUInt64, inputs.hasSegmentation.toUInt64])

end SetupInputs

end VoxelStream
