import ModelRepository.Interchange.Document
import ModelRepository.Json.Decoder

/-! Reading documents from JSON.
A record may be an object or an array of its fields in the order listed here. Lists and parents
may be left out; a `null` stands for an absent text but not for an empty list.
-/

namespace ModelRepository.Interchange

open Json (Decoder Fault Field)
open Json.Decoder (text optional list record)

/-- A pointer; each of its parts may be absent. -/
def pointerDecoder : Decoder Pointer :=
  record [
    .of "language" .optional (optional text) fun language pointer => { pointer with language },
    .of "version" .optional (optional text) fun version pointer => { pointer with version },
    .of "key" .optional (optional text) fun key pointer => { pointer with key }
  ] ⟨none, none, none⟩

/-- A language release. -/
def languageDecoder : Decoder Language :=
  record [
    .of "key" .required text fun key language => { language with key },
    .of "version" .required text fun version language => { language with version }
  ] default

/-- A property. -/
def propertyDecoder : Decoder Property :=
  record [
    .of "property" .required pointerDecoder fun pointer property =>
      { property with property := pointer },
    .of "value" .optional (optional text) fun value property => { property with value }
  ] default

/-- A containment. -/
def containmentDecoder : Decoder Containment :=
  record [
    .of "containment" .required pointerDecoder fun pointer containment =>
      { containment with containment := pointer },
    .of "children" .defaulted (list text) fun children containment =>
      { containment with children }
  ] default

/-- An entry of a reference. -/
def targetDecoder : Decoder Target :=
  record [
    .of "resolveInfo" .optional (optional text) fun resolveInfo target =>
      { target with resolveInfo },
    .of "reference" .optional (optional text) fun reference target => { target with reference }
  ] default

/-- A reference. -/
def referenceDecoder : Decoder Reference :=
  record [
    .of "reference" .required pointerDecoder fun pointer reference =>
      { reference with reference := pointer },
    .of "targets" .defaulted (list targetDecoder) fun targets reference =>
      { reference with targets }
  ] default

/-- A node. -/
def nodeDecoder : Decoder Node :=
  record [
    .of "id" .required text fun id node => { node with id },
    .of "classifier" .required pointerDecoder fun classifier node => { node with classifier },
    .of "properties" .defaulted (list propertyDecoder) fun properties node =>
      { node with properties },
    .of "containments" .defaulted (list containmentDecoder) fun containments node =>
      { node with containments },
    .of "references" .defaulted (list referenceDecoder) fun references node =>
      { node with references },
    .of "annotations" .defaulted (list text) fun annotations node => { node with annotations },
    .of "parent" .defaulted (optional text) fun parent node => { node with parent }
  ] default

/-- A document. -/
def documentDecoder : Decoder Document :=
  record [
    .of "serializationFormatVersion" .required text fun version document =>
      { document with version },
    .of "languages" .defaulted (list languageDecoder) fun languages document =>
      { document with languages },
    .of "nodes" .defaulted (list nodeDecoder) fun nodes document => { document with nodes }
  ] default

/-- The chunk that a JSON text describes. -/
def parseChunk (bytes : Binary.Bytes) : Except RepositoryError Chunk :=
  match Json.decode documentDecoder bytes with
  | .error _ => .error (.undecodable .chunkText)
  | .ok document => document.toChunk

end ModelRepository.Interchange
