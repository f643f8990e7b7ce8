import Facets.Filter.Definition
import Facets.Order.Sort
import Facets.Reading.Scalar

/-
Schemas, filters, sort keys and issues from input.
-/
namespace Facets
namespace Reading

/-- A field.  Without a label it is labelled by its key. -/
def field : Reader Field := members "FieldDefinition" fun place ms =>
  (fun key label kind visible sortable filterable sortOrder description =>
    { key, label := if label = "" then key else label, kind, visible, sortable, filterable,
      sortOrder, description : Field }) <$>
    required "key" text place ms <*>
    optional "label" text "" place ms <*>
    optional "type" (choice Kind.all Kind.tag) .string place ms <*>
    optional "visible" flag true place ms <*>
    optional "sortable" flag true place ms <*>
    optional "filterable" flag true place ms <*>
    optional "sort_order" integer 0 place ms <*>
    optional "description" (nullable text) none place ms

def coreFields : Reader CoreFields := members "CoreFields" fun place ms =>
  (fun title id status => { title, id, status : CoreFields }) <$>
    optional "title_field" text "title" place ms <*>
    optional "id_field" (nullable text) none place ms <*>
    optional "status_field" (nullable text) none place ms

def repeatedKeys (seen : List String) : List String → List String
  | [] => []
  | k :: ks => if seen.contains k then k :: repeatedKeys seen ks else repeatedKeys (k :: seen) ks

def distinctFields (place : Place) (fields : List Field) :
    Checked { fs : List Field // (fs.map Field.key).Nodup } :=
  if h : (fields.map Field.key).Nodup then .ok ⟨fields, h⟩
  else refuse place "value_error"
    ("Value error, Duplicate field keys: " ++
      String.intercalate ", " (repeatedKeys [] (fields.map Field.key)))

def schema : Reader Schema := members "CatalogSchema" fun place ms =>
  (fun name fields core => { name, fields := fields.1, core, distinct := fields.2 : Schema }) <$>
    optional "catalog_name" text "catalog" place ms <*>
    (optional "fields" (listOf field) [] place ms).andThen (distinctFields (place ++ ["fields"])) <*>
    optional "core_fields" coreFields {} place ms

def filterDefinition : Reader FilterDefinition := members "FilterDefinition" fun place ms =>
  (fun field kind label enabled options =>
    { field, kind, label, enabled, options : FilterDefinition }) <$>
    required "field" text place ms <*>
    required "type" (choice FilterKind.all FilterKind.tag) place ms <*>
    optional "label" text "" place ms <*>
    optional "enabled" flag true place ms <*>
    optional "options" (nullable (listOf text)) none place ms

def sortKey : Reader SortKey := members "SortSpec" fun place ms =>
  (fun field descending => { field, descending : SortKey }) <$>
    required "field" text place ms <*>
    optional "descending" flag false place ms

def issue : Reader Issue := members "FieldIssue" fun place ms =>
  (fun field purpose reason message => { field, purpose, reason, message : Issue }) <$>
    required "field" text place ms <*>
    required "operation" (choice Purpose.all Purpose.tag) place ms <*>
    required "reason" (choice Reason.all Reason.tag) place ms <*>
    optional "message" text "" place ms

def range : Reader Range := members "RangeValue" fun place ms =>
  (fun min max => { min, max : Range }) <$>
    optional "min" (nullable amount) none place ms <*>
    optional "max" (nullable amount) none place ms

end Reading
end Facets
