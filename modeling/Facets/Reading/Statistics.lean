import Facets.Reading.Scalar
import Facets.Statistics.Basic

/-
Statistics from input.
-/
namespace Facets
namespace Reading

def doubleAmount : Reader Amount := fun place v => Amount.float <$> double place v

def yearRange : Reader YearRange := members "YearRange" fun place ms =>
  (fun min max => { min, max : YearRange }) <$>
    optional "min" (nullable amount) none place ms <*>
    optional "max" (nullable amount) none place ms

/-- The members that group and collection statistics share. -/
def groupMembers (place : Place) (ms : Members) : Checked GroupStatistics :=
  (fun count totalWords averageWords years =>
    { count, totalWords, averageWords, years : GroupStatistics }) <$>
    optional "count" integer 0 place ms <*>
    optional "total_word_count" amount (.int 0) place ms <*>
    optional "average_word_count" doubleAmount (.int 0) place ms <*>
    optional "year_range" yearRange {} place ms

def groupStatistics : Reader GroupStatistics := members "GroupStatistics" groupMembers

def collectionStatistics : Reader CollectionStatistics :=
  members "AggregateStatistics" fun place ms =>
    (fun group withWords withYear =>
      { toGroupStatistics := group, withWords, withYear : CollectionStatistics }) <$>
      groupMembers place ms <*>
      optional "valid_word_count" integer 0 place ms <*>
      optional "valid_year_count" integer 0 place ms

def numericStatistics : Reader NumericStatistics := members "NumericStats" fun place ms =>
  (fun count sum average min max => { count, sum, average, min, max : NumericStatistics }) <$>
    optional "count" integer 0 place ms <*>
    optional "sum" amount (.int 0) place ms <*>
    optional "avg" doubleAmount (.int 0) place ms <*>
    optional "min" amount (.int 0) place ms <*>
    optional "max" amount (.int 0) place ms

end Reading
end Facets
