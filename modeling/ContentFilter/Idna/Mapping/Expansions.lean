import ContentFilter.Unicode.Table

/-!
# Characters that stand for several

The part of the mapping of hostnames that takes one character to several:
ligatures, fractions, numbers in circles or brackets, squared words. An
entry of the table gives the code points of the expansion between dots.
-/

namespace ContentFilter.Idna

/-- An entry of the table, `00BD=0031.2044.0032`. -/
def expansionOfText (t : Text) : Char × Text :=
  let (source, image) := Unicode.partsAt '=' t
  (Char.ofNat (Unicode.hexNumber source),
    (image.splitOn '.').map fun n => Char.ofNat (Unicode.hexNumber n))

/-- The entries of a table. -/
def expansionsOfText (table : String) : List (Char × Text) :=
  (Text.words table.toList).map expansionOfText

/-- The characters that stand for several. The table comes in pieces, each small enough for
a proof to look at. -/
def expansions : List (Char × Text) :=
  [ "00A8=0020.0308 00AF=0020.0304 00B4=0020.0301 00B8=0020.0327 00BC=0031.2044.0034
      00BD=0031.2044.0032 00BE=0033.2044.0034 0130=0069.0307 0132=0069.006A 0133=0069.006A
      013F=006C.00B7 0140=006C.00B7 0149=02BC.006E 01C4=0064.017E 01C5=0064.017E 01C6=0064.017E
      01C7=006C.006A 01C8=006C.006A 01C9=006C.006A 01CA=006E.006A 01CB=006E.006A 01CC=006E.006A
      01F1=0064.007A 01F2=0064.007A 01F3=0064.007A 02D8=0020.0306 02D9=0020.0307 02DA=0020.030A
      02DB=0020.0328 02DC=0020.0303 02DD=0020.030B 0344=0308.0301 037A=0020.03B9 0384=0020.0301
      0385=0020.0308.0301 0587=0565.0582 0675=0627.0674 0676=0648.0674 0677=06C7.0674 0678=064A.0674
      0958=0915.093C 0959=0916.093C 095A=0917.093C 095B=091C.093C 095C=0921.093C 095D=0922.093C
      095E=092B.093C 095F=092F.093C 09DC=09A1.09BC 09DD=09A2.09BC 09DF=09AF.09BC 0A33=0A32.0A3C
      0A36=0A38.0A3C 0A59=0A16.0A3C 0A5A=0A17.0A3C 0A5B=0A1C.0A3C 0A5E=0A2B.0A3C 0B5C=0B21.0B3C
      0B5D=0B22.0B3C 0E33=0E4D.0E32 0EB3=0ECD.0EB2 0EDC=0EAB.0E99 0EDD=0EAB.0EA1 0F43=0F42.0FB7
      0F4D=0F4C.0FB7 0F52=0F51.0FB7 0F57=0F56.0FB7 0F5C=0F5B.0FB7 0F69=0F40.0FB5 0F73=0F71.0F72
      0F75=0F71.0F74 0F76=0FB2.0F80 0F77=0FB2.0F71.0F80 0F78=0FB3.0F80 0F79=0FB3.0F71.0F80
      0F81=0F71.0F80 0F93=0F92.0FB7 0F9D=0F9C.0FB7 0FA2=0FA1.0FB7 0FA7=0FA6.0FB7 0FAC=0FAB.0FB7
      0FB9=0F90.0FB5 1E9A=0061.02BE 1F80=1F00.03B9 1F81=1F01.03B9 1F82=1F02.03B9 1F83=1F03.03B9
      1F84=1F04.03B9 1F85=1F05.03B9 1F86=1F06.03B9 1F87=1F07.03B9 1F88=1F00.03B9 1F89=1F01.03B9
      1F8A=1F02.03B9 1F8B=1F03.03B9 1F8C=1F04.03B9 1F8D=1F05.03B9 1F8E=1F06.03B9 1F8F=1F07.03B9
      1F90=1F20.03B9 1F91=1F21.03B9 1F92=1F22.03B9 1F93=1F23.03B9 1F94=1F24.03B9 1F95=1F25.03B9
      1F96=1F26.03B9 1F97=1F27.03B9 1F98=1F20.03B9 1F99=1F21.03B9 1F9A=1F22.03B9",
    "1F9B=1F23.03B9 1F9C=1F24.03B9 1F9D=1F25.03B9 1F9E=1F26.03B9 1F9F=1F27.03B9 1FA0=1F60.03B9
      1FA1=1F61.03B9 1FA2=1F62.03B9 1FA3=1F63.03B9 1FA4=1F64.03B9 1FA5=1F65.03B9 1FA6=1F66.03B9
      1FA7=1F67.03B9 1FA8=1F60.03B9 1FA9=1F61.03B9 1FAA=1F62.03B9 1FAB=1F63.03B9 1FAC=1F64.03B9
      1FAD=1F65.03B9 1FAE=1F66.03B9 1FAF=1F67.03B9 1FB2=1F70.03B9 1FB3=03B1.03B9 1FB4=03AC.03B9
      1FB7=1FB6.03B9 1FBC=03B1.03B9 1FBD=0020.0313 1FBF=0020.0313 1FC0=0020.0342 1FC1=0020.0308.0342
      1FC2=1F74.03B9 1FC3=03B7.03B9 1FC4=03AE.03B9 1FC7=1FC6.03B9 1FCC=03B7.03B9 1FCD=0020.0313.0300
      1FCE=0020.0313.0301 1FCF=0020.0313.0342 1FDD=0020.0314.0300 1FDE=0020.0314.0301
      1FDF=0020.0314.0342 1FED=0020.0308.0300 1FEE=0020.0308.0301 1FF2=1F7C.03B9 1FF3=03C9.03B9
      1FF4=03CE.03B9 1FF7=1FF6.03B9 1FFC=03C9.03B9 1FFD=0020.0301 1FFE=0020.0314 2017=0020.0333
      2033=2032.2032 2034=2032.2032.2032 2036=2035.2035 2037=2035.2035.2035 203C=0021.0021
      203E=0020.0305 2047=003F.003F 2048=003F.0021 2049=0021.003F 2057=2032.2032.2032.2032
      20A8=0072.0073 2100=0061.002F.0063 2101=0061.002F.0073 2103=00B0.0063 2105=0063.002F.006F
      2106=0063.002F.0075 2109=00B0.0066 2116=006E.006F 2120=0073.006D 2121=0074.0065.006C
      2122=0074.006D 213B=0066.0061.0078 2150=0031.2044.0037 2151=0031.2044.0039
      2152=0031.2044.0031.0030 2153=0031.2044.0033 2154=0032.2044.0033 2155=0031.2044.0035
      2156=0032.2044.0035 2157=0033.2044.0035 2158=0034.2044.0035 2159=0031.2044.0036
      215A=0035.2044.0036 215B=0031.2044.0038 215C=0033.2044.0038 215D=0035.2044.0038
      215E=0037.2044.0038 215F=0031.2044 2161=0069.0069 2162=0069.0069.0069 2163=0069.0076
      2165=0076.0069 2166=0076.0069.0069 2167=0076.0069.0069.0069 2168=0069.0078 216A=0078.0069
      216B=0078.0069.0069 2171=0069.0069 2172=0069.0069.0069 2173=0069.0076 2175=0076.0069
      2176=0076.0069.0069 2177=0076.0069.0069.0069 2178=0069.0078 217A=0078.0069 217B=0078.0069.0069
      2189=0030.2044.0033 222C=222B.222B 222D=222B.222B.222B",
    "222F=222E.222E 2230=222E.222E.222E 2469=0031.0030 246A=0031.0031 246B=0031.0032 246C=0031.0033
      246D=0031.0034 246E=0031.0035 246F=0031.0036 2470=0031.0037 2471=0031.0038 2472=0031.0039
      2473=0032.0030 2474=0028.0031.0029 2475=0028.0032.0029 2476=0028.0033.0029 2477=0028.0034.0029
      2478=0028.0035.0029 2479=0028.0036.0029 247A=0028.0037.0029 247B=0028.0038.0029
      247C=0028.0039.0029 247D=0028.0031.0030.0029 247E=0028.0031.0031.0029 247F=0028.0031.0032.0029
      2480=0028.0031.0033.0029 2481=0028.0031.0034.0029 2482=0028.0031.0035.0029
      2483=0028.0031.0036.0029 2484=0028.0031.0037.0029 2485=0028.0031.0038.0029
      2486=0028.0031.0039.0029 2487=0028.0032.0030.0029 249C=0028.0061.0029 249D=0028.0062.0029
      249E=0028.0063.0029 249F=0028.0064.0029 24A0=0028.0065.0029 24A1=0028.0066.0029
      24A2=0028.0067.0029 24A3=0028.0068.0029 24A4=0028.0069.0029 24A5=0028.006A.0029
      24A6=0028.006B.0029 24A7=0028.006C.0029 24A8=0028.006D.0029 24A9=0028.006E.0029
      24AA=0028.006F.0029 24AB=0028.0070.0029 24AC=0028.0071.0029 24AD=0028.0072.0029
      24AE=0028.0073.0029 24AF=0028.0074.0029 24B0=0028.0075.0029 24B1=0028.0076.0029
      24B2=0028.0077.0029 24B3=0028.0078.0029 24B4=0028.0079.0029 24B5=0028.007A.0029
      2A0C=222B.222B.222B.222B 2A74=003A.003A.003D 2A75=003D.003D 2A76=003D.003D.003D 2ADC=2ADD.0338
      309B=0020.3099 309C=0020.309A 309F=3088.308A 30FF=30B3.30C8 3200=0028.1100.0029
      3201=0028.1102.0029 3202=0028.1103.0029 3203=0028.1105.0029 3204=0028.1106.0029
      3205=0028.1107.0029 3206=0028.1109.0029 3207=0028.110B.0029 3208=0028.110C.0029
      3209=0028.110E.0029 320A=0028.110F.0029 320B=0028.1110.0029 320C=0028.1111.0029
      320D=0028.1112.0029 320E=0028.AC00.0029 320F=0028.B098.0029 3210=0028.B2E4.0029
      3211=0028.B77C.0029 3212=0028.B9C8.0029 3213=0028.BC14.0029 3214=0028.C0AC.0029
      3215=0028.C544.0029 3216=0028.C790.0029 3217=0028.CC28.0029 3218=0028.CE74.0029
      3219=0028.D0C0.0029 321A=0028.D30C.0029 321B=0028.D558.0029 321C=0028.C8FC.0029
      321D=0028.C624.C804.0029 321E=0028.C624.D6C4.0029 3220=0028.4E00.0029 3221=0028.4E8C.0029
      3222=0028.4E09.0029 3223=0028.56DB.0029 3224=0028.4E94.0029 3225=0028.516D.0029
      3226=0028.4E03.0029 3227=0028.516B.0029 3228=0028.4E5D.0029 3229=0028.5341.0029
      322A=0028.6708.0029",
    "322B=0028.706B.0029 322C=0028.6C34.0029 322D=0028.6728.0029 322E=0028.91D1.0029
      322F=0028.571F.0029 3230=0028.65E5.0029 3231=0028.682A.0029 3232=0028.6709.0029
      3233=0028.793E.0029 3234=0028.540D.0029 3235=0028.7279.0029 3236=0028.8CA1.0029
      3237=0028.795D.0029 3238=0028.52B4.0029 3239=0028.4EE3.0029 323A=0028.547C.0029
      323B=0028.5B66.0029 323C=0028.76E3.0029 323D=0028.4F01.0029 323E=0028.8CC7.0029
      323F=0028.5354.0029 3240=0028.796D.0029 3241=0028.4F11.0029 3242=0028.81EA.0029
      3243=0028.81F3.0029 3250=0070.0074.0065 3251=0032.0031 3252=0032.0032 3253=0032.0033
      3254=0032.0034 3255=0032.0035 3256=0032.0036 3257=0032.0037 3258=0032.0038 3259=0032.0039
      325A=0033.0030 325B=0033.0031 325C=0033.0032 325D=0033.0033 325E=0033.0034 325F=0033.0035
      327C=CC38.ACE0 327D=C8FC.C758 32B1=0033.0036 32B2=0033.0037 32B3=0033.0038 32B4=0033.0039
      32B5=0034.0030 32B6=0034.0031 32B7=0034.0032 32B8=0034.0033 32B9=0034.0034 32BA=0034.0035
      32BB=0034.0036 32BC=0034.0037 32BD=0034.0038 32BE=0034.0039 32BF=0035.0030 32C0=0031.6708
      32C1=0032.6708 32C2=0033.6708 32C3=0034.6708 32C4=0035.6708 32C5=0036.6708 32C6=0037.6708
      32C7=0038.6708 32C8=0039.6708 32C9=0031.0030.6708 32CA=0031.0031.6708 32CB=0031.0032.6708
      32CC=0068.0067 32CD=0065.0072.0067 32CE=0065.0076 32CF=006C.0074.0064 32FF=4EE4.548C
      3300=30A2.30D1.30FC.30C8 3301=30A2.30EB.30D5.30A1 3302=30A2.30F3.30DA.30A2 3303=30A2.30FC.30EB
      3304=30A4.30CB.30F3.30B0 3305=30A4.30F3.30C1 3306=30A6.30A9.30F3 3307=30A8.30B9.30AF.30FC.30C9
      3308=30A8.30FC.30AB.30FC 3309=30AA.30F3.30B9 330A=30AA.30FC.30E0 330B=30AB.30A4.30EA
      330C=30AB.30E9.30C3.30C8 330D=30AB.30ED.30EA.30FC 330E=30AC.30ED.30F3 330F=30AC.30F3.30DE
      3310=30AE.30AC 3311=30AE.30CB.30FC 3312=30AD.30E5.30EA.30FC 3313=30AE.30EB.30C0.30FC
      3314=30AD.30ED 3315=30AD.30ED.30B0.30E9.30E0 3316=30AD.30ED.30E1.30FC.30C8.30EB
      3317=30AD.30ED.30EF.30C3.30C8 3318=30B0.30E9.30E0 3319=30B0.30E9.30E0.30C8.30F3
      331A=30AF.30EB.30BC.30A4.30ED 331B=30AF.30ED.30FC.30CD 331C=30B1.30FC.30B9 331D=30B3.30EB.30CA
      331E=30B3.30FC.30DD 331F=30B5.30A4.30AF.30EB 3320=30B5.30F3.30C1.30FC.30E0
      3321=30B7.30EA.30F3.30B0 3322=30BB.30F3.30C1",
    "3323=30BB.30F3.30C8 3324=30C0.30FC.30B9 3325=30C7.30B7 3326=30C9.30EB 3327=30C8.30F3
      3328=30CA.30CE 3329=30CE.30C3.30C8 332A=30CF.30A4.30C4 332B=30D1.30FC.30BB.30F3.30C8
      332C=30D1.30FC.30C4 332D=30D0.30FC.30EC.30EB 332E=30D4.30A2.30B9.30C8.30EB 332F=30D4.30AF.30EB
      3330=30D4.30B3 3331=30D3.30EB 3332=30D5.30A1.30E9.30C3.30C9 3333=30D5.30A3.30FC.30C8
      3334=30D6.30C3.30B7.30A7.30EB 3335=30D5.30E9.30F3 3336=30D8.30AF.30BF.30FC.30EB 3337=30DA.30BD
      3338=30DA.30CB.30D2 3339=30D8.30EB.30C4 333A=30DA.30F3.30B9 333B=30DA.30FC.30B8
      333C=30D9.30FC.30BF 333D=30DD.30A4.30F3.30C8 333E=30DC.30EB.30C8 333F=30DB.30F3
      3340=30DD.30F3.30C9 3341=30DB.30FC.30EB 3342=30DB.30FC.30F3 3343=30DE.30A4.30AF.30ED
      3344=30DE.30A4.30EB 3345=30DE.30C3.30CF 3346=30DE.30EB.30AF 3347=30DE.30F3.30B7.30E7.30F3
      3348=30DF.30AF.30ED.30F3 3349=30DF.30EA 334A=30DF.30EA.30D0.30FC.30EB 334B=30E1.30AC
      334C=30E1.30AC.30C8.30F3 334D=30E1.30FC.30C8.30EB 334E=30E4.30FC.30C9 334F=30E4.30FC.30EB
      3350=30E6.30A2.30F3 3351=30EA.30C3.30C8.30EB 3352=30EA.30E9 3353=30EB.30D4.30FC
      3354=30EB.30FC.30D6.30EB 3355=30EC.30E0 3356=30EC.30F3.30C8.30B2.30F3 3357=30EF.30C3.30C8
      3358=0030.70B9 3359=0031.70B9 335A=0032.70B9 335B=0033.70B9 335C=0034.70B9 335D=0035.70B9
      335E=0036.70B9 335F=0037.70B9 3360=0038.70B9 3361=0039.70B9 3362=0031.0030.70B9
      3363=0031.0031.70B9 3364=0031.0032.70B9 3365=0031.0033.70B9 3366=0031.0034.70B9
      3367=0031.0035.70B9 3368=0031.0036.70B9 3369=0031.0037.70B9 336A=0031.0038.70B9
      336B=0031.0039.70B9 336C=0032.0030.70B9 336D=0032.0031.70B9 336E=0032.0032.70B9
      336F=0032.0033.70B9 3370=0032.0034.70B9 3371=0068.0070.0061 3372=0064.0061 3373=0061.0075
      3374=0062.0061.0072 3375=006F.0076 3376=0070.0063 3377=0064.006D 3378=0064.006D.0032
      3379=0064.006D.0033 337A=0069.0075 337B=5E73.6210 337C=662D.548C 337D=5927.6B63 337E=660E.6CBB
      337F=682A.5F0F.4F1A.793E 3380=0070.0061 3381=006E.0061 3382=03BC.0061 3383=006D.0061
      3384=006B.0061 3385=006B.0062 3386=006D.0062 3387=0067.0062 3388=0063.0061.006C
      3389=006B.0063.0061.006C 338A=0070.0066 338B=006E.0066 338C=03BC.0066 338D=03BC.0067
      338E=006D.0067 338F=006B.0067 3390=0068.007A",
    "3391=006B.0068.007A 3392=006D.0068.007A 3393=0067.0068.007A 3394=0074.0068.007A 3395=03BC.006C
      3396=006D.006C 3397=0064.006C 3398=006B.006C 3399=0066.006D 339A=006E.006D 339B=03BC.006D
      339C=006D.006D 339D=0063.006D 339E=006B.006D 339F=006D.006D.0032 33A0=0063.006D.0032
      33A1=006D.0032 33A2=006B.006D.0032 33A3=006D.006D.0033 33A4=0063.006D.0033 33A5=006D.0033
      33A6=006B.006D.0033 33A7=006D.2215.0073 33A8=006D.2215.0073.0032 33A9=0070.0061
      33AA=006B.0070.0061 33AB=006D.0070.0061 33AC=0067.0070.0061 33AD=0072.0061.0064
      33AE=0072.0061.0064.2215.0073 33AF=0072.0061.0064.2215.0073.0032 33B0=0070.0073 33B1=006E.0073
      33B2=03BC.0073 33B3=006D.0073 33B4=0070.0076 33B5=006E.0076 33B6=03BC.0076 33B7=006D.0076
      33B8=006B.0076 33B9=006D.0076 33BA=0070.0077 33BB=006E.0077 33BC=03BC.0077 33BD=006D.0077
      33BE=006B.0077 33BF=006D.0077 33C0=006B.03C9 33C1=006D.03C9 33C3=0062.0071 33C4=0063.0063
      33C5=0063.0064 33C6=0063.2215.006B.0067 33C8=0064.0062 33C9=0067.0079 33CA=0068.0061
      33CB=0068.0070 33CC=0069.006E 33CD=006B.006B 33CE=006B.006D 33CF=006B.0074 33D0=006C.006D
      33D1=006C.006E 33D2=006C.006F.0067 33D3=006C.0078 33D4=006D.0062 33D5=006D.0069.006C
      33D6=006D.006F.006C 33D7=0070.0068 33D9=0070.0070.006D 33DA=0070.0072 33DB=0073.0072
      33DC=0073.0076 33DD=0077.0062 33DE=0076.2215.006D 33DF=0061.2215.006D 33E0=0031.65E5
      33E1=0032.65E5 33E2=0033.65E5 33E3=0034.65E5 33E4=0035.65E5 33E5=0036.65E5 33E6=0037.65E5
      33E7=0038.65E5 33E8=0039.65E5 33E9=0031.0030.65E5 33EA=0031.0031.65E5 33EB=0031.0032.65E5
      33EC=0031.0033.65E5 33ED=0031.0034.65E5 33EE=0031.0035.65E5 33EF=0031.0036.65E5
      33F0=0031.0037.65E5 33F1=0031.0038.65E5 33F2=0031.0039.65E5 33F3=0032.0030.65E5
      33F4=0032.0031.65E5 33F5=0032.0032.65E5 33F6=0032.0033.65E5 33F7=0032.0034.65E5
      33F8=0032.0035.65E5 33F9=0032.0036.65E5 33FA=0032.0037.65E5 33FB=0032.0038.65E5
      33FC=0032.0039.65E5 33FD=0033.0030.65E5 33FE=0033.0031.65E5 33FF=0067.0061.006C FB00=0066.0066
      FB01=0066.0069",
    "FB02=0066.006C FB03=0066.0066.0069 FB04=0066.0066.006C FB05=0073.0074 FB06=0073.0074
      FB13=0574.0576 FB14=0574.0565 FB15=0574.056B FB16=057E.0576 FB17=0574.056D FB1D=05D9.05B4
      FB1F=05F2.05B7 FB2A=05E9.05C1 FB2B=05E9.05C2 FB2C=05E9.05BC.05C1 FB2D=05E9.05BC.05C2
      FB2E=05D0.05B7 FB2F=05D0.05B8 FB30=05D0.05BC FB31=05D1.05BC FB32=05D2.05BC FB33=05D3.05BC
      FB34=05D4.05BC FB35=05D5.05BC FB36=05D6.05BC FB38=05D8.05BC FB39=05D9.05BC FB3A=05DA.05BC
      FB3B=05DB.05BC FB3C=05DC.05BC FB3E=05DE.05BC FB40=05E0.05BC FB41=05E1.05BC FB43=05E3.05BC
      FB44=05E4.05BC FB46=05E6.05BC FB47=05E7.05BC FB48=05E8.05BC FB49=05E9.05BC FB4A=05EA.05BC
      FB4B=05D5.05B9 FB4C=05D1.05BF FB4D=05DB.05BF FB4E=05E4.05BF FB4F=05D0.05DC FBDD=06C7.0674
      FBEA=0626.0627 FBEB=0626.0627 FBEC=0626.06D5 FBED=0626.06D5 FBEE=0626.0648 FBEF=0626.0648
      FBF0=0626.06C7 FBF1=0626.06C7 FBF2=0626.06C6 FBF3=0626.06C6 FBF4=0626.06C8 FBF5=0626.06C8
      FBF6=0626.06D0 FBF7=0626.06D0 FBF8=0626.06D0 FBF9=0626.0649 FBFA=0626.0649 FBFB=0626.0649
      FC00=0626.062C FC01=0626.062D FC02=0626.0645 FC03=0626.0649 FC04=0626.064A FC05=0628.062C
      FC06=0628.062D FC07=0628.062E FC08=0628.0645 FC09=0628.0649 FC0A=0628.064A FC0B=062A.062C
      FC0C=062A.062D FC0D=062A.062E FC0E=062A.0645 FC0F=062A.0649 FC10=062A.064A FC11=062B.062C
      FC12=062B.0645 FC13=062B.0649 FC14=062B.064A FC15=062C.062D FC16=062C.0645 FC17=062D.062C
      FC18=062D.0645 FC19=062E.062C FC1A=062E.062D FC1B=062E.0645 FC1C=0633.062C FC1D=0633.062D
      FC1E=0633.062E FC1F=0633.0645 FC20=0635.062D FC21=0635.0645 FC22=0636.062C FC23=0636.062D
      FC24=0636.062E FC25=0636.0645 FC26=0637.062D FC27=0637.0645 FC28=0638.0645 FC29=0639.062C
      FC2A=0639.0645 FC2B=063A.062C FC2C=063A.0645 FC2D=0641.062C",
    "FC2E=0641.062D FC2F=0641.062E FC30=0641.0645 FC31=0641.0649 FC32=0641.064A FC33=0642.062D
      FC34=0642.0645 FC35=0642.0649 FC36=0642.064A FC37=0643.0627 FC38=0643.062C FC39=0643.062D
      FC3A=0643.062E FC3B=0643.0644 FC3C=0643.0645 FC3D=0643.0649 FC3E=0643.064A FC3F=0644.062C
      FC40=0644.062D FC41=0644.062E FC42=0644.0645 FC43=0644.0649 FC44=0644.064A FC45=0645.062C
      FC46=0645.062D FC47=0645.062E FC48=0645.0645 FC49=0645.0649 FC4A=0645.064A FC4B=0646.062C
      FC4C=0646.062D FC4D=0646.062E FC4E=0646.0645 FC4F=0646.0649 FC50=0646.064A FC51=0647.062C
      FC52=0647.0645 FC53=0647.0649 FC54=0647.064A FC55=064A.062C FC56=064A.062D FC57=064A.062E
      FC58=064A.0645 FC59=064A.0649 FC5A=064A.064A FC5B=0630.0670 FC5C=0631.0670 FC5D=0649.0670
      FC5E=0020.064C.0651 FC5F=0020.064D.0651 FC60=0020.064E.0651 FC61=0020.064F.0651
      FC62=0020.0650.0651 FC63=0020.0651.0670 FC64=0626.0631 FC65=0626.0632 FC66=0626.0645
      FC67=0626.0646 FC68=0626.0649 FC69=0626.064A FC6A=0628.0631 FC6B=0628.0632 FC6C=0628.0645
      FC6D=0628.0646 FC6E=0628.0649 FC6F=0628.064A FC70=062A.0631 FC71=062A.0632 FC72=062A.0645
      FC73=062A.0646 FC74=062A.0649 FC75=062A.064A FC76=062B.0631 FC77=062B.0632 FC78=062B.0645
      FC79=062B.0646 FC7A=062B.0649 FC7B=062B.064A FC7C=0641.0649 FC7D=0641.064A FC7E=0642.0649
      FC7F=0642.064A FC80=0643.0627 FC81=0643.0644 FC82=0643.0645 FC83=0643.0649 FC84=0643.064A
      FC85=0644.0645 FC86=0644.0649 FC87=0644.064A FC88=0645.0627 FC89=0645.0645 FC8A=0646.0631
      FC8B=0646.0632 FC8C=0646.0645 FC8D=0646.0646 FC8E=0646.0649 FC8F=0646.064A FC90=0649.0670
      FC91=064A.0631 FC92=064A.0632 FC93=064A.0645 FC94=064A.0646 FC95=064A.0649 FC96=064A.064A
      FC97=0626.062C FC98=0626.062D FC99=0626.062E FC9A=0626.0645 FC9B=0626.0647",
    "FC9C=0628.062C FC9D=0628.062D FC9E=0628.062E FC9F=0628.0645 FCA0=0628.0647 FCA1=062A.062C
      FCA2=062A.062D FCA3=062A.062E FCA4=062A.0645 FCA5=062A.0647 FCA6=062B.0645 FCA7=062C.062D
      FCA8=062C.0645 FCA9=062D.062C FCAA=062D.0645 FCAB=062E.062C FCAC=062E.0645 FCAD=0633.062C
      FCAE=0633.062D FCAF=0633.062E FCB0=0633.0645 FCB1=0635.062D FCB2=0635.062E FCB3=0635.0645
      FCB4=0636.062C FCB5=0636.062D FCB6=0636.062E FCB7=0636.0645 FCB8=0637.062D FCB9=0638.0645
      FCBA=0639.062C FCBB=0639.0645 FCBC=063A.062C FCBD=063A.0645 FCBE=0641.062C FCBF=0641.062D
      FCC0=0641.062E FCC1=0641.0645 FCC2=0642.062D FCC3=0642.0645 FCC4=0643.062C FCC5=0643.062D
      FCC6=0643.062E FCC7=0643.0644 FCC8=0643.0645 FCC9=0644.062C FCCA=0644.062D FCCB=0644.062E
      FCCC=0644.0645 FCCD=0644.0647 FCCE=0645.062C FCCF=0645.062D FCD0=0645.062E FCD1=0645.0645
      FCD2=0646.062C FCD3=0646.062D FCD4=0646.062E FCD5=0646.0645 FCD6=0646.0647 FCD7=0647.062C
      FCD8=0647.0645 FCD9=0647.0670 FCDA=064A.062C FCDB=064A.062D FCDC=064A.062E FCDD=064A.0645
      FCDE=064A.0647 FCDF=0626.0645 FCE0=0626.0647 FCE1=0628.0645 FCE2=0628.0647 FCE3=062A.0645
      FCE4=062A.0647 FCE5=062B.0645 FCE6=062B.0647 FCE7=0633.0645 FCE8=0633.0647 FCE9=0634.0645
      FCEA=0634.0647 FCEB=0643.0644 FCEC=0643.0645 FCED=0644.0645 FCEE=0646.0645 FCEF=0646.0647
      FCF0=064A.0645 FCF1=064A.0647 FCF2=0640.064E.0651 FCF3=0640.064F.0651 FCF4=0640.0650.0651
      FCF5=0637.0649 FCF6=0637.064A FCF7=0639.0649 FCF8=0639.064A FCF9=063A.0649 FCFA=063A.064A
      FCFB=0633.0649 FCFC=0633.064A FCFD=0634.0649 FCFE=0634.064A FCFF=062D.0649 FD00=062D.064A
      FD01=062C.0649 FD02=062C.064A FD03=062E.0649 FD04=062E.064A FD05=0635.0649 FD06=0635.064A
      FD07=0636.0649 FD08=0636.064A FD09=0634.062C",
    "FD0A=0634.062D FD0B=0634.062E FD0C=0634.0645 FD0D=0634.0631 FD0E=0633.0631 FD0F=0635.0631
      FD10=0636.0631 FD11=0637.0649 FD12=0637.064A FD13=0639.0649 FD14=0639.064A FD15=063A.0649
      FD16=063A.064A FD17=0633.0649 FD18=0633.064A FD19=0634.0649 FD1A=0634.064A FD1B=062D.0649
      FD1C=062D.064A FD1D=062C.0649 FD1E=062C.064A FD1F=062E.0649 FD20=062E.064A FD21=0635.0649
      FD22=0635.064A FD23=0636.0649 FD24=0636.064A FD25=0634.062C FD26=0634.062D FD27=0634.062E
      FD28=0634.0645 FD29=0634.0631 FD2A=0633.0631 FD2B=0635.0631 FD2C=0636.0631 FD2D=0634.062C
      FD2E=0634.062D FD2F=0634.062E FD30=0634.0645 FD31=0633.0647 FD32=0634.0647 FD33=0637.0645
      FD34=0633.062C FD35=0633.062D FD36=0633.062E FD37=0634.062C FD38=0634.062D FD39=0634.062E
      FD3A=0637.0645 FD3B=0638.0645 FD3C=0627.064B FD3D=0627.064B FD50=062A.062C.0645
      FD51=062A.062D.062C FD52=062A.062D.062C FD53=062A.062D.0645 FD54=062A.062E.0645
      FD55=062A.0645.062C FD56=062A.0645.062D FD57=062A.0645.062E FD58=062C.0645.062D
      FD59=062C.0645.062D FD5A=062D.0645.064A FD5B=062D.0645.0649 FD5C=0633.062D.062C
      FD5D=0633.062C.062D FD5E=0633.062C.0649 FD5F=0633.0645.062D FD60=0633.0645.062D
      FD61=0633.0645.062C FD62=0633.0645.0645 FD63=0633.0645.0645 FD64=0635.062D.062D
      FD65=0635.062D.062D FD66=0635.0645.0645 FD67=0634.062D.0645 FD68=0634.062D.0645
      FD69=0634.062C.064A FD6A=0634.0645.062E FD6B=0634.0645.062E FD6C=0634.0645.0645
      FD6D=0634.0645.0645 FD6E=0636.062D.0649 FD6F=0636.062E.0645 FD70=0636.062E.0645
      FD71=0637.0645.062D FD72=0637.0645.062D FD73=0637.0645.0645 FD74=0637.0645.064A
      FD75=0639.062C.0645 FD76=0639.0645.0645 FD77=0639.0645.0645 FD78=0639.0645.0649
      FD79=063A.0645.0645 FD7A=063A.0645.064A FD7B=063A.0645.0649 FD7C=0641.062E.0645
      FD7D=0641.062E.0645 FD7E=0642.0645.062D FD7F=0642.0645.0645 FD80=0644.062D.0645
      FD81=0644.062D.064A FD82=0644.062D.0649 FD83=0644.062C.062C FD84=0644.062C.062C
      FD85=0644.062E.0645 FD86=0644.062E.0645 FD87=0644.0645.062D FD88=0644.0645.062D
      FD89=0645.062D.062C",
    "FD8A=0645.062D.0645 FD8B=0645.062D.064A FD8C=0645.062C.062D FD8D=0645.062C.0645
      FD8E=0645.062E.062C FD8F=0645.062E.0645 FD92=0645.062C.062E FD93=0647.0645.062C
      FD94=0647.0645.0645 FD95=0646.062D.0645 FD96=0646.062D.0649 FD97=0646.062C.0645
      FD98=0646.062C.0645 FD99=0646.062C.0649 FD9A=0646.0645.064A FD9B=0646.0645.0649
      FD9C=064A.0645.0645 FD9D=064A.0645.0645 FD9E=0628.062E.064A FD9F=062A.062C.064A
      FDA0=062A.062C.0649 FDA1=062A.062E.064A FDA2=062A.062E.0649 FDA3=062A.0645.064A
      FDA4=062A.0645.0649 FDA5=062C.0645.064A FDA6=062C.062D.0649 FDA7=062C.0645.0649
      FDA8=0633.062E.0649 FDA9=0635.062D.064A FDAA=0634.062D.064A FDAB=0636.062D.064A
      FDAC=0644.062C.064A FDAD=0644.0645.064A FDAE=064A.062D.064A FDAF=064A.062C.064A
      FDB0=064A.0645.064A FDB1=0645.0645.064A FDB2=0642.0645.064A FDB3=0646.062D.064A
      FDB4=0642.0645.062D FDB5=0644.062D.0645 FDB6=0639.0645.064A FDB7=0643.0645.064A
      FDB8=0646.062C.062D FDB9=0645.062E.064A FDBA=0644.062C.0645 FDBB=0643.0645.0645
      FDBC=0644.062C.0645 FDBD=0646.062C.062D FDBE=062C.062D.064A FDBF=062D.062C.064A
      FDC0=0645.062C.064A FDC1=0641.0645.064A FDC2=0628.062D.064A FDC3=0643.0645.0645
      FDC4=0639.062C.0645 FDC5=0635.0645.0645 FDC6=0633.062E.064A FDC7=0646.062C.064A
      FDF0=0635.0644.06D2 FDF1=0642.0644.06D2 FDF2=0627.0644.0644.0647 FDF3=0627.0643.0628.0631
      FDF4=0645.062D.0645.062F FDF5=0635.0644.0639.0645 FDF6=0631.0633.0648.0644
      FDF7=0639.0644.064A.0647 FDF8=0648.0633.0644.0645 FDF9=0635.0644.0649
      FDFA=0635.0644.0649.0020.0627.0644.0644.0647.0020.0639.0644.064A.0647.0020.0648.0633.0644.0645
      FDFB=062C.0644.0020.062C.0644.0627.0644.0647 FDFC=0631.06CC.0627.0644 FE49=0020.0305
      FE4A=0020.0305 FE4B=0020.0305 FE4C=0020.0305 FE70=0020.064B FE71=0640.064B FE72=0020.064C
      FE74=0020.064D FE76=0020.064E FE77=0640.064E FE78=0020.064F FE79=0640.064F FE7A=0020.0650
      FE7B=0640.0650 FE7C=0020.0651 FE7D=0640.0651 FE7E=0020.0652 FE7F=0640.0652 FEF5=0644.0622
      FEF6=0644.0622 FEF7=0644.0623 FEF8=0644.0623 FEF9=0644.0625 FEFA=0644.0625 FEFB=0644.0627
      FEFC=0644.0627 FFE3=0020.0304 1D15E=1D157.1D165 1D15F=1D158.1D165 1D160=1D158.1D165.1D16E
      1D161=1D158.1D165.1D16F 1D162=1D158.1D165.1D170 1D163=1D158.1D165.1D171
      1D164=1D158.1D165.1D172 1D1BB=1D1B9.1D165 1D1BC=1D1BA.1D165 1D1BD=1D1B9.1D165.1D16E",
    "1D1BE=1D1BA.1D165.1D16E 1D1BF=1D1B9.1D165.1D16F 1D1C0=1D1BA.1D165.1D16F 1F101=0030.002C
      1F102=0031.002C 1F103=0032.002C 1F104=0033.002C 1F105=0034.002C 1F106=0035.002C
      1F107=0036.002C 1F108=0037.002C 1F109=0038.002C 1F10A=0039.002C 1F110=0028.0061.0029
      1F111=0028.0062.0029 1F112=0028.0063.0029 1F113=0028.0064.0029 1F114=0028.0065.0029
      1F115=0028.0066.0029 1F116=0028.0067.0029 1F117=0028.0068.0029 1F118=0028.0069.0029
      1F119=0028.006A.0029 1F11A=0028.006B.0029 1F11B=0028.006C.0029 1F11C=0028.006D.0029
      1F11D=0028.006E.0029 1F11E=0028.006F.0029 1F11F=0028.0070.0029 1F120=0028.0071.0029
      1F121=0028.0072.0029 1F122=0028.0073.0029 1F123=0028.0074.0029 1F124=0028.0075.0029
      1F125=0028.0076.0029 1F126=0028.0077.0029 1F127=0028.0078.0029 1F128=0028.0079.0029
      1F129=0028.007A.0029 1F12A=3014.0073.3015 1F12D=0063.0064 1F12E=0077.007A 1F14A=0068.0076
      1F14B=006D.0076 1F14C=0073.0064 1F14D=0073.0073 1F14E=0070.0070.0076 1F14F=0077.0063
      1F16A=006D.0063 1F16B=006D.0064 1F16C=006D.0072 1F190=0064.006A 1F200=307B.304B
      1F201=30B3.30B3 1F240=3014.672C.3015 1F241=3014.4E09.3015 1F242=3014.4E8C.3015
      1F243=3014.5B89.3015 1F244=3014.70B9.3015 1F245=3014.6253.3015 1F246=3014.76D7.3015
      1F247=3014.52DD.3015 1F248=3014.6557.3015" ].flatMap
    expansionsOfText

end ContentFilter.Idna
