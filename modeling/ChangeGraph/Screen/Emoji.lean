import ChangeGraph.Text.Lines

/-! # Signs with a name

The signs that can be called by a name, each with the numbers of its characters. -/

namespace ChangeGraph.Screen

def emojiTable : String := "
  1st_place_medal=129351 2nd_place_medal=129352 3rd_place_medal=129353 ab_button_(blood_type)=127374 atm_sign=127975
  a_button_(blood_type)=127344 afghanistan=127462-127467 albania=127462-127473 algeria=127465-127487
  american_samoa=127462-127480 andorra=127462-127465 angola=127462-127476 anguilla=127462-127470
  antarctica=127462-127478 antigua_&_barbuda=127462-127468 aquarius=9810 argentina=127462-127479 aries=9800
  armenia=127462-127474 aruba=127462-127484 ascension_island=127462-127464 australia=127462-127482 austria=127462-127481
  azerbaijan=127462-127487 back_arrow=128281 b_button_(blood_type)=127345 bahamas=127463-127480 bahrain=127463-127469
  bangladesh=127463-127465 barbados=127463-127463 belarus=127463-127486 belgium=127463-127466 belize=127463-127487
  benin=127463-127471 bermuda=127463-127474 bhutan=127463-127481 bolivia=127463-127476
  bosnia_&_herzegovina=127463-127462 botswana=127463-127484 bouvet_island=127463-127483 brazil=127463-127479
  british_indian_ocean_territory=127470-127476 british_virgin_islands=127483-127468 brunei=127463-127475
  bulgaria=127463-127468 burkina_faso=127463-127467 burundi=127463-127470 cl_button=127377 cool_button=127378
  cambodia=127472-127469 cameroon=127464-127474 canada=127464-127462 canary_islands=127470-127464 cancer=9803
  cape_verde=127464-127483 capricorn=9809 caribbean_netherlands=127463-127478 cayman_islands=127472-127486
  central_african_republic=127464-127467 ceuta_&_melilla=127466-127462 chad=127481-127465 chile=127464-127473
  china=127464-127475 christmas_island=127464-127485 christmas_tree=127876 clipperton_island=127464-127477
  cocos_(keeling)_islands=127464-127464 colombia=127464-127476 comoros=127472-127474 congo_-_brazzaville=127464-127468
  congo_-_kinshasa=127464-127465 cook_islands=127464-127472 costa_rica=127464-127479 croatia=127469-127479
  cuba=127464-127482 curaçao=127464-127484 cyprus=127464-127486 czechia=127464-127487 côte_d’ivoire=127464-127470
  denmark=127465-127472 diego_garcia=127465-127468 djibouti=127465-127471 dominica=127465-127474
  dominican_republic=127465-127476 end_arrow=128282 ecuador=127466-127464 egypt=127466-127468 el_salvador=127480-127483
  england=127988-917607-917602-917605-917614-917607-917631 equatorial_guinea=127468-127478 eritrea=127466-127479
  estonia=127466-127466 ethiopia=127466-127481 european_union=127466-127482 free_button=127379
  falkland_islands=127467-127472 faroe_islands=127467-127476 fiji=127467-127471 finland=127467-127470
  france=127467-127479 french_guiana=127468-127467 french_polynesia=127477-127467
  french_southern_territories=127481-127467 gabon=127468-127462 gambia=127468-127474 gemini=9802 georgia=127468-127466
  germany=127465-127466 ghana=127468-127469 gibraltar=127468-127470 greece=127468-127479 greenland=127468-127473
  grenada=127468-127465 guadeloupe=127468-127477 guam=127468-127482 guatemala=127468-127481 guernsey=127468-127468
  guinea=127468-127475 guinea-bissau=127468-127484 guyana=127468-127486 haiti=127469-127481
  heard_&_mcdonald_islands=127469-127474 honduras=127469-127475 hong_kong_sar_china=127469-127472 hungary=127469-127482
  id_button=127380 iceland=127470-127480 india=127470-127475 indonesia=127470-127465 iran=127470-127479
  iraq=127470-127478 ireland=127470-127466 isle_of_man=127470-127474 israel=127470-127473 italy=127470-127481
  jamaica=127471-127474 japan=128510 japanese_acceptable_button=127569 japanese_application_button=127544
  japanese_bargain_button=127568 japanese_castle=127983 japanese_congratulations_button=12951
  japanese_discount_button=127545 japanese_dolls=127886 japanese_free_of_charge_button=127514
  japanese_here_button=127489 japanese_monthly_amount_button=127543 japanese_no_vacancy_button=127541
  japanese_not_free_of_charge_button=127542 japanese_open_for_business_button=127546
  japanese_passing_grade_button=127540 japanese_post_office=127971 japanese_prohibited_button=127538
  japanese_reserved_button=127535 japanese_secret_button=12953 japanese_service_charge_button=127490
  japanese_symbol_for_beginner=128304 japanese_vacancy_button=127539 jersey=127471-127466 jordan=127471-127476
  kazakhstan=127472-127487 kenya=127472-127466 kiribati=127472-127470 kosovo=127485-127472 kuwait=127472-127484
  kyrgyzstan=127472-127468 laos=127473-127462 latvia=127473-127483 lebanon=127473-127463 leo=9804 lesotho=127473-127480
  liberia=127473-127479 libra=9806 libya=127473-127486 liechtenstein=127473-127470 lithuania=127473-127481
  luxembourg=127473-127482 macau_sar_china=127474-127476 macedonia=127474-127472 madagascar=127474-127468
  malawi=127474-127484 malaysia=127474-127486 maldives=127474-127483 mali=127474-127473 malta=127474-127481
  marshall_islands=127474-127469 martinique=127474-127478 mauritania=127474-127479 mauritius=127474-127482
  mayotte=127486-127481 mexico=127474-127485 micronesia=127467-127474 moldova=127474-127465 monaco=127474-127464
  mongolia=127474-127475 montenegro=127474-127466 montserrat=127474-127480 morocco=127474-127462
  mozambique=127474-127487 mrs._claus=129334 mrs._claus_dark_skin_tone=129334-127999
  mrs._claus_light_skin_tone=129334-127995 mrs._claus_medium-dark_skin_tone=129334-127998
  mrs._claus_medium-light_skin_tone=129334-127996 mrs._claus_medium_skin_tone=129334-127997
  myanmar_(burma)=127474-127474 new_button=127381 ng_button=127382 namibia=127475-127462 nauru=127475-127479
  nepal=127475-127477 netherlands=127475-127473 new_caledonia=127475-127464 new_zealand=127475-127487
  nicaragua=127475-127470 niger=127475-127466 nigeria=127475-127468 niue=127475-127482 norfolk_island=127475-127467
  north_korea=127472-127477 northern_mariana_islands=127474-127477 norway=127475-127476 ok_button=127383 ok_hand=128076
  ok_hand_dark_skin_tone=128076-127999 ok_hand_light_skin_tone=128076-127995 ok_hand_medium-dark_skin_tone=128076-127998
  ok_hand_medium-light_skin_tone=128076-127996 ok_hand_medium_skin_tone=128076-127997 on!_arrow=128283
  o_button_(blood_type)=127358 oman=127476-127474 ophiuchus=9934 p_button=127359 pakistan=127477-127472
  palau=127477-127484 palestinian_territories=127477-127480 panama=127477-127462 papua_new_guinea=127477-127468
  paraguay=127477-127486 peru=127477-127466 philippines=127477-127469 pisces=9811 pitcairn_islands=127477-127475
  poland=127477-127473 portugal=127477-127481 puerto_rico=127477-127479 qatar=127478-127462 romania=127479-127476
  russia=127479-127482 rwanda=127479-127484 réunion=127479-127466 soon_arrow=128284 sos_button=127384 sagittarius=9808
  samoa=127484-127480 san_marino=127480-127474 santa_claus=127877 santa_claus_dark_skin_tone=127877-127999
  santa_claus_light_skin_tone=127877-127995 santa_claus_medium-dark_skin_tone=127877-127998
  santa_claus_medium-light_skin_tone=127877-127996 santa_claus_medium_skin_tone=127877-127997 saudi_arabia=127480-127462
  scorpio=9807 scotland=127988-917607-917602-917619-917603-917620-917631 senegal=127480-127475 serbia=127479-127480
  seychelles=127480-127464 sierra_leone=127480-127473 singapore=127480-127468 sint_maarten=127480-127485
  slovakia=127480-127472 slovenia=127480-127470 solomon_islands=127480-127463 somalia=127480-127476
  south_africa=127487-127462 south_georgia_&_south_sandwich_islands=127468-127480 south_korea=127472-127479
  south_sudan=127480-127480 spain=127466-127480 sri_lanka=127473-127472 st._barthélemy=127463-127473
  st._helena=127480-127469 st._kitts_&_nevis=127472-127475 st._lucia=127473-127464 st._martin=127474-127467
  st._pierre_&_miquelon=127477-127474 st._vincent_&_grenadines=127483-127464 statue_of_liberty=128509
  sudan=127480-127465 suriname=127480-127479 svalbard_&_jan_mayen=127480-127471 swaziland=127480-127487
  sweden=127480-127466 switzerland=127464-127469 syria=127480-127486 são_tomé_&_príncipe=127480-127481 t-rex=129430
  top_arrow=128285 taiwan=127481-127484 tajikistan=127481-127471 tanzania=127481-127487 taurus=9801
  thailand=127481-127469 timor-leste=127481-127473 togo=127481-127468 tokelau=127481-127472 tokyo_tower=128508
  tonga=127481-127476 trinidad_&_tobago=127481-127481 tristan_da_cunha=127481-127462 tunisia=127481-127475 turkey=129411
  turkmenistan=127481-127474 turks_&_caicos_islands=127481-127464 tuvalu=127481-127483
  u.s._outlying_islands=127482-127474 u.s._virgin_islands=127483-127470 up!_button=127385 uganda=127482-127468
  ukraine=127482-127462 united_arab_emirates=127462-127466 united_kingdom=127468-127463 united_nations=127482-127475
  united_states=127482-127480 uruguay=127482-127486 uzbekistan=127482-127487 vs_button=127386 vanuatu=127483-127482
  vatican_city=127483-127462 venezuela=127483-127466 vietnam=127483-127475 virgo=9805
  wales=127988-917607-917602-917623-917612-917619-917631 wallis_&_futuna=127484-127467 western_sahara=127466-127469
  yemen=127486-127466 zambia=127487-127474 zimbabwe=127487-127484 abacus=129518 adhesive_bandage=129657
  admission_tickets=127903 adult=129489 adult_dark_skin_tone=129489-127999 adult_light_skin_tone=129489-127995
  adult_medium-dark_skin_tone=129489-127998 adult_medium-light_skin_tone=129489-127996
  adult_medium_skin_tone=129489-127997 aerial_tramway=128673 airplane=9992 airplane_arrival=128748
  airplane_departure=128747 alarm_clock=9200 alembic=9879 alien=128125 alien_monster=128126 ambulance=128657
  american_football=127944 amphora=127994 anchor=9875 anger_symbol=128162 angry_face=128544 angry_face_with_horns=128127
  anguished_face=128551 ant=128028 antenna_bars=128246 anxious_face_with_sweat=128560 articulated_lorry=128667
  artist_palette=127912 astonished_face=128562 atom_symbol=9883 auto_rickshaw=128762 automobile=128663 avocado=129361
  axe=129683 baby=128118 baby_angel=128124 baby_angel_dark_skin_tone=128124-127999
  baby_angel_light_skin_tone=128124-127995 baby_angel_medium-dark_skin_tone=128124-127998
  baby_angel_medium-light_skin_tone=128124-127996 baby_angel_medium_skin_tone=128124-127997 baby_bottle=127868
  baby_chick=128036 baby_dark_skin_tone=128118-127999 baby_light_skin_tone=128118-127995
  baby_medium-dark_skin_tone=128118-127998 baby_medium-light_skin_tone=128118-127996 baby_medium_skin_tone=128118-127997
  baby_symbol=128700 backhand_index_pointing_down=128071 backhand_index_pointing_down_dark_skin_tone=128071-127999
  backhand_index_pointing_down_light_skin_tone=128071-127995
  backhand_index_pointing_down_medium-dark_skin_tone=128071-127998
  backhand_index_pointing_down_medium-light_skin_tone=128071-127996
  backhand_index_pointing_down_medium_skin_tone=128071-127997 backhand_index_pointing_left=128072
  backhand_index_pointing_left_dark_skin_tone=128072-127999 backhand_index_pointing_left_light_skin_tone=128072-127995
  backhand_index_pointing_left_medium-dark_skin_tone=128072-127998
  backhand_index_pointing_left_medium-light_skin_tone=128072-127996
  backhand_index_pointing_left_medium_skin_tone=128072-127997 backhand_index_pointing_right=128073
  backhand_index_pointing_right_dark_skin_tone=128073-127999 backhand_index_pointing_right_light_skin_tone=128073-127995
  backhand_index_pointing_right_medium-dark_skin_tone=128073-127998
  backhand_index_pointing_right_medium-light_skin_tone=128073-127996
  backhand_index_pointing_right_medium_skin_tone=128073-127997 backhand_index_pointing_up=128070
  backhand_index_pointing_up_dark_skin_tone=128070-127999 backhand_index_pointing_up_light_skin_tone=128070-127995
  backhand_index_pointing_up_medium-dark_skin_tone=128070-127998
  backhand_index_pointing_up_medium-light_skin_tone=128070-127996
  backhand_index_pointing_up_medium_skin_tone=128070-127997 bacon=129363 badger=129441 badminton=127992 bagel=129391
  baggage_claim=128708 baguette_bread=129366 balance_scale=9878 bald=129458 bald_man=128104-8205-129458
  bald_woman=128105-8205-129458 ballet_shoes=129648 balloon=127880 ballot_box_with_ballot=128499
  ballot_box_with_check=9745 banana=127820 banjo=129685 bank=127974 bar_chart=128202 barber_pole=128136 baseball=9918
  basket=129530 basketball=127936 bat=129415 bathtub=128705 battery=128267 beach_with_umbrella=127958
  beaming_face_with_smiling_eyes=128513 bear_face=128059 bearded_person=129492
  bearded_person_dark_skin_tone=129492-127999 bearded_person_light_skin_tone=129492-127995
  bearded_person_medium-dark_skin_tone=129492-127998 bearded_person_medium-light_skin_tone=129492-127996
  bearded_person_medium_skin_tone=129492-127997 beating_heart=128147 bed=128719 beer_mug=127866 bell=128276
  bell_with_slash=128277 bellhop_bell=128718 bento_box=127857 beverage_box=129475 bicycle=128690 bikini=128089
  billed_cap=129506 biohazard=9763 bird=128038 birthday_cake=127874 black_circle=9899 black_flag=127988
  black_heart=128420 black_large_square=11035 black_medium-small_square=9726 black_medium_square=9724 black_nib=10002
  black_small_square=9642 black_square_button=128306 blond-haired_man=128113-8205-9794-65039
  blond-haired_man_dark_skin_tone=128113-127999-8205-9794-65039
  blond-haired_man_light_skin_tone=128113-127995-8205-9794-65039
  blond-haired_man_medium-dark_skin_tone=128113-127998-8205-9794-65039
  blond-haired_man_medium-light_skin_tone=128113-127996-8205-9794-65039
  blond-haired_man_medium_skin_tone=128113-127997-8205-9794-65039 blond-haired_person=128113
  blond-haired_person_dark_skin_tone=128113-127999 blond-haired_person_light_skin_tone=128113-127995
  blond-haired_person_medium-dark_skin_tone=128113-127998 blond-haired_person_medium-light_skin_tone=128113-127996
  blond-haired_person_medium_skin_tone=128113-127997 blond-haired_woman=128113-8205-9792-65039
  blond-haired_woman_dark_skin_tone=128113-127999-8205-9792-65039
  blond-haired_woman_light_skin_tone=128113-127995-8205-9792-65039
  blond-haired_woman_medium-dark_skin_tone=128113-127998-8205-9792-65039
  blond-haired_woman_medium-light_skin_tone=128113-127996-8205-9792-65039
  blond-haired_woman_medium_skin_tone=128113-127997-8205-9792-65039 blossom=127804 blowfish=128033 blue_book=128216
  blue_circle=128309 blue_heart=128153 blue_square=128998 boar=128023 bomb=128163 bone=129460 bookmark=128278
  bookmark_tabs=128209 books=128218 bottle_with_popping_cork=127870 bouquet=128144 bow_and_arrow=127993
  bowl_with_spoon=129379 bowling=127923 boxing_glove=129354 boy=128102 boy_dark_skin_tone=128102-127999
  boy_light_skin_tone=128102-127995 boy_medium-dark_skin_tone=128102-127998 boy_medium-light_skin_tone=128102-127996
  boy_medium_skin_tone=128102-127997 brain=129504 bread=127838 breast-feeding=129329
  breast-feeding_dark_skin_tone=129329-127999 breast-feeding_light_skin_tone=129329-127995
  breast-feeding_medium-dark_skin_tone=129329-127998 breast-feeding_medium-light_skin_tone=129329-127996
  breast-feeding_medium_skin_tone=129329-127997 brick=129521 bride_with_veil=128112
  bride_with_veil_dark_skin_tone=128112-127999 bride_with_veil_light_skin_tone=128112-127995
  bride_with_veil_medium-dark_skin_tone=128112-127998 bride_with_veil_medium-light_skin_tone=128112-127996
  bride_with_veil_medium_skin_tone=128112-127997 bridge_at_night=127753 briefcase=128188 briefs=129650
  bright_button=128262 broccoli=129382 broken_heart=128148 broom=129529 brown_circle=128996 brown_heart=129294
  brown_square=129003 bug=128027 building_construction=127959 bullet_train=128645 burrito=127791 bus=128652
  bus_stop=128655 bust_in_silhouette=128100 busts_in_silhouette=128101 butter=129480 butterfly=129419 cactus=127797
  calendar=128198 call_me_hand=129305 call_me_hand_dark_skin_tone=129305-127999
  call_me_hand_light_skin_tone=129305-127995 call_me_hand_medium-dark_skin_tone=129305-127998
  call_me_hand_medium-light_skin_tone=129305-127996 call_me_hand_medium_skin_tone=129305-127997 camel=128043
  camera=128247 camera_with_flash=128248 camping=127957 candle=128367 candy=127852 canned_food=129387 canoe=128758
  card_file_box=128451 card_index=128199 card_index_dividers=128450 carousel_horse=127904 carp_streamer=127887
  carrot=129365 castle=127984 cat=128049 cat_face=128049 cat_face_with_tears_of_joy=128569
  cat_face_with_wry_smile=128572 chains=9939 chair=129681 chart_decreasing=128201 chart_increasing=128200
  chart_increasing_with_yen=128185 cheese_wedge=129472 chequered_flag=127937 cherries=127826 cherry_blossom=127800
  chess_pawn=9823 chestnut=127792 chicken=128020 child=129490 child_dark_skin_tone=129490-127999
  child_light_skin_tone=129490-127995 child_medium-dark_skin_tone=129490-127998
  child_medium-light_skin_tone=129490-127996 child_medium_skin_tone=129490-127997 children_crossing=128696
  chipmunk=128063 chocolate_bar=127851 chopsticks=129378 church=9962 cigarette=128684 cinema=127910 circled_m=9410
  circus_tent=127914 cityscape=127961 cityscape_at_dusk=127750 clamp=128476 clapper_board=127916 clapping_hands=128079
  clapping_hands_dark_skin_tone=128079-127999 clapping_hands_light_skin_tone=128079-127995
  clapping_hands_medium-dark_skin_tone=128079-127998 clapping_hands_medium-light_skin_tone=128079-127996
  clapping_hands_medium_skin_tone=128079-127997 classical_building=127963 clinking_beer_mugs=127867
  clinking_glasses=129346 clipboard=128203 clockwise_vertical_arrows=128259 closed_book=128213
  closed_mailbox_with_lowered_flag=128234 closed_mailbox_with_raised_flag=128235 closed_umbrella=127746 cloud=9729
  cloud_with_lightning=127785 cloud_with_lightning_and_rain=9928 cloud_with_rain=127783 cloud_with_snow=127784
  clown_face=129313 club_suit=9827 clutch_bag=128093 coat=129509 cocktail_glass=127864 coconut=129381 coffin=9904
  cold_face=129398 collision=128165 comet=9732 compass=129517 computer_disk=128189 computer_mouse=128433
  confetti_ball=127882 confounded_face=128534 confused_face=128533 construction=128679 construction_worker=128119
  construction_worker_dark_skin_tone=128119-127999 construction_worker_light_skin_tone=128119-127995
  construction_worker_medium-dark_skin_tone=128119-127998 construction_worker_medium-light_skin_tone=128119-127996
  construction_worker_medium_skin_tone=128119-127997 control_knobs=127899 convenience_store=127978 cooked_rice=127834
  cookie=127850 cooking=127859 copyright=169 couch_and_lamp=128715 counterclockwise_arrows_button=128260
  couple_with_heart=128145 couple_with_heart_man_man=128104-8205-10084-65039-8205-128104
  couple_with_heart_woman_man=128105-8205-10084-65039-8205-128104
  couple_with_heart_woman_woman=128105-8205-10084-65039-8205-128105 cow=128046 cow_face=128046 cowboy_hat_face=129312
  crab=129408 crayon=128397 credit_card=128179 crescent_moon=127769 cricket=129431 cricket_game=127951 crocodile=128010
  croissant=129360 cross_mark=10060 cross_mark_button=10062 crossed_fingers=129310
  crossed_fingers_dark_skin_tone=129310-127999 crossed_fingers_light_skin_tone=129310-127995
  crossed_fingers_medium-dark_skin_tone=129310-127998 crossed_fingers_medium-light_skin_tone=129310-127996
  crossed_fingers_medium_skin_tone=129310-127997 crossed_flags=127884 crossed_swords=9876 crown=128081
  crying_cat_face=128575 crying_face=128546 crystal_ball=128302 cucumber=129362 cupcake=129473 cup_with_straw=129380
  curling_stone=129356 curly_hair=129457 curly-haired_man=128104-8205-129457 curly-haired_woman=128105-8205-129457
  curly_loop=10160 currency_exchange=128177 curry_rice=127835 custard=127854 customs=128707 cut_of_meat=129385
  cyclone=127744 dagger=128481 dango=127841 dashing_away=128168 deaf_person=129487 deciduous_tree=127795 deer=129420
  delivery_truck=128666 department_store=127980 derelict_house=127962 desert=127964 desert_island=127965
  desktop_computer=128421 detective=128373 detective_dark_skin_tone=128373-127999
  detective_light_skin_tone=128373-127995 detective_medium-dark_skin_tone=128373-127998
  detective_medium-light_skin_tone=128373-127996 detective_medium_skin_tone=128373-127997 diamond_suit=9830
  diamond_with_a_dot=128160 dim_button=128261 direct_hit=127919 disappointed_face=128542 diving_mask=129343
  diya_lamp=129684 dizzy=128171 dizzy_face=128565 dna=129516 dog=128054 dog_face=128054 dollar_banknote=128181
  dolphin=128044 door=128682 dotted_six-pointed_star=128303 double_curly_loop=10175 double_exclamation_mark=8252
  doughnut=127849 dove=128330 down-left_arrow=8601 down-right_arrow=8600 down_arrow=11015
  downcast_face_with_sweat=128531 downwards_button=128317 dragon=128009 dragon_face=128050 dress=128087
  drooling_face=129316 drop_of_blood=129656 droplet=128167 drum=129345 duck=129414 dumpling=129375 dvd=128192
  e-mail=128231 eagle=129413 ear=128066 ear_dark_skin_tone=128066-127999 ear_light_skin_tone=128066-127995
  ear_medium-dark_skin_tone=128066-127998 ear_medium-light_skin_tone=128066-127996 ear_medium_skin_tone=128066-127997
  ear_of_corn=127805 ear_with_hearing_aid=129467 egg=127859 eggplant=127814 eight-pointed_star=10036
  eight-spoked_asterisk=10035 eight-thirty=128355 eight_o’clock=128343 eject_button=9167 electric_plug=128268
  elephant=128024 eleven-thirty=128358 eleven_o’clock=128346 elf=129501 elf_dark_skin_tone=129501-127999
  elf_light_skin_tone=129501-127995 elf_medium-dark_skin_tone=129501-127998 elf_medium-light_skin_tone=129501-127996
  elf_medium_skin_tone=129501-127997 envelope=9993 envelope_with_arrow=128233 euro_banknote=128182 evergreen_tree=127794
  ewe=128017 exclamation_mark=10071 exclamation_question_mark=8265 exploding_head=129327 expressionless_face=128529
  eye=128065 eye_in_speech_bubble=128065-65039-8205-128488-65039 eyes=128064 face_blowing_a_kiss=128536
  face_savoring_food=128523 face_screaming_in_fear=128561 face_vomiting=129326 face_with_hand_over_mouth=129325
  face_with_head-bandage=129301 face_with_medical_mask=128567 face_with_monocle=129488 face_with_open_mouth=128558
  face_with_raised_eyebrow=129320 face_with_rolling_eyes=128580 face_with_steam_from_nose=128548
  face_with_symbols_on_mouth=129324 face_with_tears_of_joy=128514 face_with_thermometer=129298 face_with_tongue=128539
  face_without_mouth=128566 factory=127981 fairy=129498 fairy_dark_skin_tone=129498-127999
  fairy_light_skin_tone=129498-127995 fairy_medium-dark_skin_tone=129498-127998
  fairy_medium-light_skin_tone=129498-127996 fairy_medium_skin_tone=129498-127997 falafel=129478 fallen_leaf=127810
  family=128106 family_man_boy=128104-8205-128102 family_man_boy_boy=128104-8205-128102-8205-128102
  family_man_girl=128104-8205-128103 family_man_girl_boy=128104-8205-128103-8205-128102
  family_man_girl_girl=128104-8205-128103-8205-128103 family_man_man_boy=128104-8205-128104-8205-128102
  family_man_man_boy_boy=128104-8205-128104-8205-128102-8205-128102 family_man_man_girl=128104-8205-128104-8205-128103
  family_man_man_girl_boy=128104-8205-128104-8205-128103-8205-128102
  family_man_man_girl_girl=128104-8205-128104-8205-128103-8205-128103
  family_man_woman_boy=128104-8205-128105-8205-128102
  family_man_woman_boy_boy=128104-8205-128105-8205-128102-8205-128102
  family_man_woman_girl=128104-8205-128105-8205-128103
  family_man_woman_girl_boy=128104-8205-128105-8205-128103-8205-128102
  family_man_woman_girl_girl=128104-8205-128105-8205-128103-8205-128103 family_woman_boy=128105-8205-128102
  family_woman_boy_boy=128105-8205-128102-8205-128102 family_woman_girl=128105-8205-128103
  family_woman_girl_boy=128105-8205-128103-8205-128102 family_woman_girl_girl=128105-8205-128103-8205-128103
  family_woman_woman_boy=128105-8205-128105-8205-128102
  family_woman_woman_boy_boy=128105-8205-128105-8205-128102-8205-128102
  family_woman_woman_girl=128105-8205-128105-8205-128103
  family_woman_woman_girl_boy=128105-8205-128105-8205-128103-8205-128102
  family_woman_woman_girl_girl=128105-8205-128105-8205-128103-8205-128103 fast-forward_button=9193 fast_down_button=9196
  fast_reverse_button=9194 fast_up_button=9195 fax_machine=128224 fearful_face=128552 female_sign=9792
  ferris_wheel=127905 ferry=9972 field_hockey=127953 file_cabinet=128452 file_folder=128193 film_frames=127902
  film_projector=128253 fire=128293 fire_extinguisher=129519 firecracker=129512 fire_engine=128658 fireworks=127878
  first_quarter_moon=127763 first_quarter_moon_face=127771 fish=128031 fish_cake_with_swirl=127845 fishing_pole=127907
  five-thirty=128352 five_o’clock=128340 flag_in_hole=9971 flamingo=129449 flashlight=128294 flat_shoe=129407
  fleur-de-lis=9884 flexed_biceps=128170 flexed_biceps_dark_skin_tone=128170-127999
  flexed_biceps_light_skin_tone=128170-127995 flexed_biceps_medium-dark_skin_tone=128170-127998
  flexed_biceps_medium-light_skin_tone=128170-127996 flexed_biceps_medium_skin_tone=128170-127997 floppy_disk=128190
  flower_playing_cards=127924 flushed_face=128563 flying_disc=129359 flying_saucer=128760 fog=127787 foggy=127745
  folded_hands=128591 folded_hands_dark_skin_tone=128591-127999 folded_hands_light_skin_tone=128591-127995
  folded_hands_medium-dark_skin_tone=128591-127998 folded_hands_medium-light_skin_tone=128591-127996
  folded_hands_medium_skin_tone=128591-127997 foot=129462 footprints=128099 fork_and_knife=127860
  fork_and_knife_with_plate=127869 fortune_cookie=129376 fountain=9970 fountain_pen=128395 four-thirty=128351
  four_leaf_clover=127808 four_o’clock=128339 fox_face=129418 framed_picture=128444 french_fries=127839
  fried_shrimp=127844 frog_face=128056 front-facing_baby_chick=128037 frowning_face=9785
  frowning_face_with_open_mouth=128550 fuel_pump=9981 full_moon=127765 full_moon_face=127773 funeral_urn=9905
  game_die=127922 garlic=129476 gear=9881 gem_stone=128142 genie=129502 ghost=128123 giraffe=129426 girl=128103
  girl_dark_skin_tone=128103-127999 girl_light_skin_tone=128103-127995 girl_medium-dark_skin_tone=128103-127998
  girl_medium-light_skin_tone=128103-127996 girl_medium_skin_tone=128103-127997 glass_of_milk=129371 glasses=128083
  globe_showing_americas=127758 globe_showing_asia-australia=127759 globe_showing_europe-africa=127757
  globe_with_meridians=127760 gloves=129508 glowing_star=127775 goal_net=129349 goat=128016 goblin=128122 goggles=129405
  gorilla=129421 graduation_cap=127891 grapes=127815 green_apple=127823 green_book=128215 green_circle=128994
  green_heart=128154 green_salad=129367 green_square=129001 grimacing_face=128556 grinning_cat_face=128570
  grinning_cat_face_with_smiling_eyes=128568 grinning_face=128512 grinning_face_with_big_eyes=128515
  grinning_face_with_smiling_eyes=128516 grinning_face_with_sweat=128517 grinning_squinting_face=128518
  growing_heart=128151 guard=128130 guard_dark_skin_tone=128130-127999 guard_light_skin_tone=128130-127995
  guard_medium-dark_skin_tone=128130-127998 guard_medium-light_skin_tone=128130-127996
  guard_medium_skin_tone=128130-127997 guide_dog=129454 guitar=127928 hamburger=127828 hammer=128296
  hammer_and_pick=9874 hammer_and_wrench=128736 hamster_face=128057 hand_with_fingers_splayed=128400
  hand_with_fingers_splayed_dark_skin_tone=128400-127999 hand_with_fingers_splayed_light_skin_tone=128400-127995
  hand_with_fingers_splayed_medium-dark_skin_tone=128400-127998
  hand_with_fingers_splayed_medium-light_skin_tone=128400-127996
  hand_with_fingers_splayed_medium_skin_tone=128400-127997 handbag=128092 handshake=129309 hatching_chick=128035
  headphone=127911 hear-no-evil_monkey=128585 heart_decoration=128159 heart_suit=9829 heart_with_arrow=128152
  heart_with_ribbon=128157 heavy_check_mark=10004 heavy_division_sign=10135 heavy_dollar_sign=128178
  heavy_heart_exclamation=10083 heavy_large_circle=11093 heavy_minus_sign=10134 heavy_multiplication_x=10006
  heavy_plus_sign=10133 hedgehog=129428 helicopter=128641 herb=127807 hibiscus=127802 high-heeled_shoe=128096
  high-speed_train=128644 high_voltage=9889 hiking_boot=129406 hindu_temple=128725 hippopotamus=129435 hole=128371
  honey_pot=127855 honeybee=128029 horizontal_traffic_light=128677 horse=128052 horse_face=128052 horse_racing=127943
  horse_racing_dark_skin_tone=127943-127999 horse_racing_light_skin_tone=127943-127995
  horse_racing_medium-dark_skin_tone=127943-127998 horse_racing_medium-light_skin_tone=127943-127996
  horse_racing_medium_skin_tone=127943-127997 hospital=127973 hot_beverage=9749 hot_dog=127789 hot_face=129397
  hot_pepper=127798 hot_springs=9832 hotel=127976 hourglass_done=8987 hourglass_not_done=9203 house=127968
  house_with_garden=127969 houses=127960 hugging_face=129303 hundred_points=128175 hushed_face=128559 ice=129482
  ice_cream=127848 ice_hockey=127954 ice_skate=9976 inbox_tray=128229 incoming_envelope=128232 index_pointing_up=9757
  index_pointing_up_dark_skin_tone=9757-127999 index_pointing_up_light_skin_tone=9757-127995
  index_pointing_up_medium-dark_skin_tone=9757-127998 index_pointing_up_medium-light_skin_tone=9757-127996
  index_pointing_up_medium_skin_tone=9757-127997 infinity=9854 information=8505 input_latin_letters=128292
  input_latin_lowercase=128289 input_latin_uppercase=128288 input_numbers=128290 input_symbols=128291
  jack-o-lantern=127875 jeans=128086 jigsaw=129513 joker=127183 joystick=128377 kaaba=128331 kangaroo=129432 key=128273
  keyboard=9000 keycap_#=35-65039-8419 keycap_*=42-65039-8419 keycap_0=48-65039-8419 keycap_1=49-65039-8419
  keycap_10=128287 keycap_2=50-65039-8419 keycap_3=51-65039-8419 keycap_4=52-65039-8419 keycap_5=53-65039-8419
  keycap_6=54-65039-8419 keycap_7=55-65039-8419 keycap_8=56-65039-8419 keycap_9=57-65039-8419 kick_scooter=128756
  kimono=128088 kiss=128139 kiss_man_man=128104-8205-10084-65039-8205-128139-8205-128104 kiss_mark=128139
  kiss_woman_man=128105-8205-10084-65039-8205-128139-8205-128104
  kiss_woman_woman=128105-8205-10084-65039-8205-128139-8205-128105 kissing_cat_face=128573 kissing_face=128535
  kissing_face_with_closed_eyes=128538 kissing_face_with_smiling_eyes=128537 kitchen_knife=128298 kite=129665
  kiwi_fruit=129373 koala=128040 lab_coat=129404 label=127991 lacrosse=129357 lady_beetle=128030 laptop_computer=128187
  large_blue_diamond=128311 large_orange_diamond=128310 last_quarter_moon=127767 last_quarter_moon_face=127772
  last_track_button=9198 latin_cross=10013 leaf_fluttering_in_wind=127811 leafy_green=129388 ledger=128210
  left-facing_fist=129307 left-facing_fist_dark_skin_tone=129307-127999 left-facing_fist_light_skin_tone=129307-127995
  left-facing_fist_medium-dark_skin_tone=129307-127998 left-facing_fist_medium-light_skin_tone=129307-127996
  left-facing_fist_medium_skin_tone=129307-127997 left-right_arrow=8596 left_arrow=11013 left_arrow_curving_right=8618
  left_luggage=128709 left_speech_bubble=128488 leg=129461 lemon=127819 leopard=128006 level_slider=127898
  light_bulb=128161 light_rail=128648 link=128279 linked_paperclips=128391 lion_face=129409 lipstick=128132
  litter_in_bin_sign=128686 lizard=129422 llama=129433 lobster=129438 locked=128274 locked_with_key=128272
  locked_with_pen=128271 locomotive=128642 lollipop=127853 lotion_bottle=129524 loudly_crying_face=128557
  loudspeaker=128226 love-you_gesture=129311 love-you_gesture_dark_skin_tone=129311-127999
  love-you_gesture_light_skin_tone=129311-127995 love-you_gesture_medium-dark_skin_tone=129311-127998
  love-you_gesture_medium-light_skin_tone=129311-127996 love-you_gesture_medium_skin_tone=129311-127997
  love_hotel=127977 love_letter=128140 luggage=129523 lying_face=129317 mage=129497 mage_dark_skin_tone=129497-127999
  mage_light_skin_tone=129497-127995 mage_medium-dark_skin_tone=129497-127998 mage_medium-light_skin_tone=129497-127996
  mage_medium_skin_tone=129497-127997 magnet=129522 magnifying_glass_tilted_left=128269
  magnifying_glass_tilted_right=128270 mahjong_red_dragon=126980 male_sign=9794 man=128104
  man_and_woman_holding_hands=128107 man_artist=128104-8205-127912 man_artist_dark_skin_tone=128104-127999-8205-127912
  man_artist_light_skin_tone=128104-127995-8205-127912 man_artist_medium-dark_skin_tone=128104-127998-8205-127912
  man_artist_medium-light_skin_tone=128104-127996-8205-127912 man_artist_medium_skin_tone=128104-127997-8205-127912
  man_astronaut=128104-8205-128640 man_astronaut_dark_skin_tone=128104-127999-8205-128640
  man_astronaut_light_skin_tone=128104-127995-8205-128640 man_astronaut_medium-dark_skin_tone=128104-127998-8205-128640
  man_astronaut_medium-light_skin_tone=128104-127996-8205-128640
  man_astronaut_medium_skin_tone=128104-127997-8205-128640 man_biking=128692-8205-9794-65039
  man_biking_dark_skin_tone=128692-127999-8205-9794-65039 man_biking_light_skin_tone=128692-127995-8205-9794-65039
  man_biking_medium-dark_skin_tone=128692-127998-8205-9794-65039
  man_biking_medium-light_skin_tone=128692-127996-8205-9794-65039
  man_biking_medium_skin_tone=128692-127997-8205-9794-65039 man_bouncing_ball=9977-65039-8205-9794-65039
  man_bouncing_ball_dark_skin_tone=9977-127999-8205-9794-65039
  man_bouncing_ball_light_skin_tone=9977-127995-8205-9794-65039
  man_bouncing_ball_medium-dark_skin_tone=9977-127998-8205-9794-65039
  man_bouncing_ball_medium-light_skin_tone=9977-127996-8205-9794-65039
  man_bouncing_ball_medium_skin_tone=9977-127997-8205-9794-65039 man_bowing=128583-8205-9794-65039
  man_bowing_dark_skin_tone=128583-127999-8205-9794-65039 man_bowing_light_skin_tone=128583-127995-8205-9794-65039
  man_bowing_medium-dark_skin_tone=128583-127998-8205-9794-65039
  man_bowing_medium-light_skin_tone=128583-127996-8205-9794-65039
  man_bowing_medium_skin_tone=128583-127997-8205-9794-65039 man_cartwheeling=129336-8205-9794-65039
  man_cartwheeling_dark_skin_tone=129336-127999-8205-9794-65039
  man_cartwheeling_light_skin_tone=129336-127995-8205-9794-65039
  man_cartwheeling_medium-dark_skin_tone=129336-127998-8205-9794-65039
  man_cartwheeling_medium-light_skin_tone=129336-127996-8205-9794-65039
  man_cartwheeling_medium_skin_tone=129336-127997-8205-9794-65039 man_climbing=129495-8205-9794-65039
  man_climbing_dark_skin_tone=129495-127999-8205-9794-65039 man_climbing_light_skin_tone=129495-127995-8205-9794-65039
  man_climbing_medium-dark_skin_tone=129495-127998-8205-9794-65039
  man_climbing_medium-light_skin_tone=129495-127996-8205-9794-65039
  man_climbing_medium_skin_tone=129495-127997-8205-9794-65039 man_construction_worker=128119-8205-9794-65039
  man_construction_worker_dark_skin_tone=128119-127999-8205-9794-65039
  man_construction_worker_light_skin_tone=128119-127995-8205-9794-65039
  man_construction_worker_medium-dark_skin_tone=128119-127998-8205-9794-65039
  man_construction_worker_medium-light_skin_tone=128119-127996-8205-9794-65039
  man_construction_worker_medium_skin_tone=128119-127997-8205-9794-65039 man_cook=128104-8205-127859
  man_cook_dark_skin_tone=128104-127999-8205-127859 man_cook_light_skin_tone=128104-127995-8205-127859
  man_cook_medium-dark_skin_tone=128104-127998-8205-127859 man_cook_medium-light_skin_tone=128104-127996-8205-127859
  man_cook_medium_skin_tone=128104-127997-8205-127859 man_dancing=128378 man_dancing_dark_skin_tone=128378-127999
  man_dancing_light_skin_tone=128378-127995 man_dancing_medium-dark_skin_tone=128378-127998
  man_dancing_medium-light_skin_tone=128378-127996 man_dancing_medium_skin_tone=128378-127997
  man_dark_skin_tone=128104-127999 man_detective=128373-65039-8205-9794-65039
  man_detective_dark_skin_tone=128373-127999-8205-9794-65039 man_detective_light_skin_tone=128373-127995-8205-9794-65039
  man_detective_medium-dark_skin_tone=128373-127998-8205-9794-65039
  man_detective_medium-light_skin_tone=128373-127996-8205-9794-65039
  man_detective_medium_skin_tone=128373-127997-8205-9794-65039 man_elf=129501-8205-9794-65039
  man_elf_dark_skin_tone=129501-127999-8205-9794-65039 man_elf_light_skin_tone=129501-127995-8205-9794-65039
  man_elf_medium-dark_skin_tone=129501-127998-8205-9794-65039
  man_elf_medium-light_skin_tone=129501-127996-8205-9794-65039 man_elf_medium_skin_tone=129501-127997-8205-9794-65039
  man_facepalming=129318-8205-9794-65039 man_facepalming_dark_skin_tone=129318-127999-8205-9794-65039
  man_facepalming_light_skin_tone=129318-127995-8205-9794-65039
  man_facepalming_medium-dark_skin_tone=129318-127998-8205-9794-65039
  man_facepalming_medium-light_skin_tone=129318-127996-8205-9794-65039
  man_facepalming_medium_skin_tone=129318-127997-8205-9794-65039 man_factory_worker=128104-8205-127981
  man_factory_worker_dark_skin_tone=128104-127999-8205-127981
  man_factory_worker_light_skin_tone=128104-127995-8205-127981
  man_factory_worker_medium-dark_skin_tone=128104-127998-8205-127981
  man_factory_worker_medium-light_skin_tone=128104-127996-8205-127981
  man_factory_worker_medium_skin_tone=128104-127997-8205-127981 man_fairy=129498-8205-9794-65039
  man_fairy_dark_skin_tone=129498-127999-8205-9794-65039 man_fairy_light_skin_tone=129498-127995-8205-9794-65039
  man_fairy_medium-dark_skin_tone=129498-127998-8205-9794-65039
  man_fairy_medium-light_skin_tone=129498-127996-8205-9794-65039
  man_fairy_medium_skin_tone=129498-127997-8205-9794-65039 man_farmer=128104-8205-127806
  man_farmer_dark_skin_tone=128104-127999-8205-127806 man_farmer_light_skin_tone=128104-127995-8205-127806
  man_farmer_medium-dark_skin_tone=128104-127998-8205-127806 man_farmer_medium-light_skin_tone=128104-127996-8205-127806
  man_farmer_medium_skin_tone=128104-127997-8205-127806 man_firefighter=128104-8205-128658
  man_firefighter_dark_skin_tone=128104-127999-8205-128658 man_firefighter_light_skin_tone=128104-127995-8205-128658
  man_firefighter_medium-dark_skin_tone=128104-127998-8205-128658
  man_firefighter_medium-light_skin_tone=128104-127996-8205-128658
  man_firefighter_medium_skin_tone=128104-127997-8205-128658 man_frowning=128589-8205-9794-65039
  man_frowning_dark_skin_tone=128589-127999-8205-9794-65039 man_frowning_light_skin_tone=128589-127995-8205-9794-65039
  man_frowning_medium-dark_skin_tone=128589-127998-8205-9794-65039
  man_frowning_medium-light_skin_tone=128589-127996-8205-9794-65039
  man_frowning_medium_skin_tone=128589-127997-8205-9794-65039 man_genie=129502-8205-9794-65039
  man_gesturing_no=128581-8205-9794-65039 man_gesturing_no_dark_skin_tone=128581-127999-8205-9794-65039
  man_gesturing_no_light_skin_tone=128581-127995-8205-9794-65039
  man_gesturing_no_medium-dark_skin_tone=128581-127998-8205-9794-65039
  man_gesturing_no_medium-light_skin_tone=128581-127996-8205-9794-65039
  man_gesturing_no_medium_skin_tone=128581-127997-8205-9794-65039 man_gesturing_ok=128582-8205-9794-65039
  man_gesturing_ok_dark_skin_tone=128582-127999-8205-9794-65039
  man_gesturing_ok_light_skin_tone=128582-127995-8205-9794-65039
  man_gesturing_ok_medium-dark_skin_tone=128582-127998-8205-9794-65039
  man_gesturing_ok_medium-light_skin_tone=128582-127996-8205-9794-65039
  man_gesturing_ok_medium_skin_tone=128582-127997-8205-9794-65039 man_getting_haircut=128135-8205-9794-65039
  man_getting_haircut_dark_skin_tone=128135-127999-8205-9794-65039
  man_getting_haircut_light_skin_tone=128135-127995-8205-9794-65039
  man_getting_haircut_medium-dark_skin_tone=128135-127998-8205-9794-65039
  man_getting_haircut_medium-light_skin_tone=128135-127996-8205-9794-65039
  man_getting_haircut_medium_skin_tone=128135-127997-8205-9794-65039 man_getting_massage=128134-8205-9794-65039
  man_getting_massage_dark_skin_tone=128134-127999-8205-9794-65039
  man_getting_massage_light_skin_tone=128134-127995-8205-9794-65039
  man_getting_massage_medium-dark_skin_tone=128134-127998-8205-9794-65039
  man_getting_massage_medium-light_skin_tone=128134-127996-8205-9794-65039
  man_getting_massage_medium_skin_tone=128134-127997-8205-9794-65039 man_golfing=127948-65039-8205-9794-65039
  man_golfing_dark_skin_tone=127948-127999-8205-9794-65039 man_golfing_light_skin_tone=127948-127995-8205-9794-65039
  man_golfing_medium-dark_skin_tone=127948-127998-8205-9794-65039
  man_golfing_medium-light_skin_tone=127948-127996-8205-9794-65039
  man_golfing_medium_skin_tone=127948-127997-8205-9794-65039 man_guard=128130-8205-9794-65039
  man_guard_dark_skin_tone=128130-127999-8205-9794-65039 man_guard_light_skin_tone=128130-127995-8205-9794-65039
  man_guard_medium-dark_skin_tone=128130-127998-8205-9794-65039
  man_guard_medium-light_skin_tone=128130-127996-8205-9794-65039
  man_guard_medium_skin_tone=128130-127997-8205-9794-65039 man_health_worker=128104-8205-9877-65039
  man_health_worker_dark_skin_tone=128104-127999-8205-9877-65039
  man_health_worker_light_skin_tone=128104-127995-8205-9877-65039
  man_health_worker_medium-dark_skin_tone=128104-127998-8205-9877-65039
  man_health_worker_medium-light_skin_tone=128104-127996-8205-9877-65039
  man_health_worker_medium_skin_tone=128104-127997-8205-9877-65039 man_in_lotus_position=129496-8205-9794-65039
  man_in_lotus_position_dark_skin_tone=129496-127999-8205-9794-65039
  man_in_lotus_position_light_skin_tone=129496-127995-8205-9794-65039
  man_in_lotus_position_medium-dark_skin_tone=129496-127998-8205-9794-65039
  man_in_lotus_position_medium-light_skin_tone=129496-127996-8205-9794-65039
  man_in_lotus_position_medium_skin_tone=129496-127997-8205-9794-65039 man_in_manual_wheelchair=128104-8205-129469
  man_in_motorized_wheelchair=128104-8205-129468 man_in_steamy_room=129494-8205-9794-65039
  man_in_steamy_room_dark_skin_tone=129494-127999-8205-9794-65039
  man_in_steamy_room_light_skin_tone=129494-127995-8205-9794-65039
  man_in_steamy_room_medium-dark_skin_tone=129494-127998-8205-9794-65039
  man_in_steamy_room_medium-light_skin_tone=129494-127996-8205-9794-65039
  man_in_steamy_room_medium_skin_tone=129494-127997-8205-9794-65039 man_in_suit_levitating=128372
  man_in_suit_levitating_dark_skin_tone=128372-127999 man_in_suit_levitating_light_skin_tone=128372-127995
  man_in_suit_levitating_medium-dark_skin_tone=128372-127998 man_in_suit_levitating_medium-light_skin_tone=128372-127996
  man_in_suit_levitating_medium_skin_tone=128372-127997 man_in_tuxedo=129333 man_in_tuxedo_dark_skin_tone=129333-127999
  man_in_tuxedo_light_skin_tone=129333-127995 man_in_tuxedo_medium-dark_skin_tone=129333-127998
  man_in_tuxedo_medium-light_skin_tone=129333-127996 man_in_tuxedo_medium_skin_tone=129333-127997
  man_judge=128104-8205-9878-65039 man_judge_dark_skin_tone=128104-127999-8205-9878-65039
  man_judge_light_skin_tone=128104-127995-8205-9878-65039 man_judge_medium-dark_skin_tone=128104-127998-8205-9878-65039
  man_judge_medium-light_skin_tone=128104-127996-8205-9878-65039
  man_judge_medium_skin_tone=128104-127997-8205-9878-65039 man_juggling=129337-8205-9794-65039
  man_juggling_dark_skin_tone=129337-127999-8205-9794-65039 man_juggling_light_skin_tone=129337-127995-8205-9794-65039
  man_juggling_medium-dark_skin_tone=129337-127998-8205-9794-65039
  man_juggling_medium-light_skin_tone=129337-127996-8205-9794-65039
  man_juggling_medium_skin_tone=129337-127997-8205-9794-65039 man_lifting_weights=127947-65039-8205-9794-65039
  man_lifting_weights_dark_skin_tone=127947-127999-8205-9794-65039
  man_lifting_weights_light_skin_tone=127947-127995-8205-9794-65039
  man_lifting_weights_medium-dark_skin_tone=127947-127998-8205-9794-65039
  man_lifting_weights_medium-light_skin_tone=127947-127996-8205-9794-65039
  man_lifting_weights_medium_skin_tone=127947-127997-8205-9794-65039 man_light_skin_tone=128104-127995
  man_mage=129497-8205-9794-65039 man_mage_dark_skin_tone=129497-127999-8205-9794-65039
  man_mage_light_skin_tone=129497-127995-8205-9794-65039 man_mage_medium-dark_skin_tone=129497-127998-8205-9794-65039
  man_mage_medium-light_skin_tone=129497-127996-8205-9794-65039 man_mage_medium_skin_tone=129497-127997-8205-9794-65039
  man_mechanic=128104-8205-128295 man_mechanic_dark_skin_tone=128104-127999-8205-128295
  man_mechanic_light_skin_tone=128104-127995-8205-128295 man_mechanic_medium-dark_skin_tone=128104-127998-8205-128295
  man_mechanic_medium-light_skin_tone=128104-127996-8205-128295 man_mechanic_medium_skin_tone=128104-127997-8205-128295
  man_medium-dark_skin_tone=128104-127998 man_medium-light_skin_tone=128104-127996 man_medium_skin_tone=128104-127997
  man_mountain_biking=128693-8205-9794-65039 man_mountain_biking_dark_skin_tone=128693-127999-8205-9794-65039
  man_mountain_biking_light_skin_tone=128693-127995-8205-9794-65039
  man_mountain_biking_medium-dark_skin_tone=128693-127998-8205-9794-65039
  man_mountain_biking_medium-light_skin_tone=128693-127996-8205-9794-65039
  man_mountain_biking_medium_skin_tone=128693-127997-8205-9794-65039 man_office_worker=128104-8205-128188
  man_office_worker_dark_skin_tone=128104-127999-8205-128188 man_office_worker_light_skin_tone=128104-127995-8205-128188
  man_office_worker_medium-dark_skin_tone=128104-127998-8205-128188
  man_office_worker_medium-light_skin_tone=128104-127996-8205-128188
  man_office_worker_medium_skin_tone=128104-127997-8205-128188 man_pilot=128104-8205-9992-65039
  man_pilot_dark_skin_tone=128104-127999-8205-9992-65039 man_pilot_light_skin_tone=128104-127995-8205-9992-65039
  man_pilot_medium-dark_skin_tone=128104-127998-8205-9992-65039
  man_pilot_medium-light_skin_tone=128104-127996-8205-9992-65039
  man_pilot_medium_skin_tone=128104-127997-8205-9992-65039 man_playing_handball=129342-8205-9794-65039
  man_playing_handball_dark_skin_tone=129342-127999-8205-9794-65039
  man_playing_handball_light_skin_tone=129342-127995-8205-9794-65039
  man_playing_handball_medium-dark_skin_tone=129342-127998-8205-9794-65039
  man_playing_handball_medium-light_skin_tone=129342-127996-8205-9794-65039
  man_playing_handball_medium_skin_tone=129342-127997-8205-9794-65039 man_playing_water_polo=129341-8205-9794-65039
  man_playing_water_polo_dark_skin_tone=129341-127999-8205-9794-65039
  man_playing_water_polo_light_skin_tone=129341-127995-8205-9794-65039
  man_playing_water_polo_medium-dark_skin_tone=129341-127998-8205-9794-65039
  man_playing_water_polo_medium-light_skin_tone=129341-127996-8205-9794-65039
  man_playing_water_polo_medium_skin_tone=129341-127997-8205-9794-65039 man_police_officer=128110-8205-9794-65039
  man_police_officer_dark_skin_tone=128110-127999-8205-9794-65039
  man_police_officer_light_skin_tone=128110-127995-8205-9794-65039
  man_police_officer_medium-dark_skin_tone=128110-127998-8205-9794-65039
  man_police_officer_medium-light_skin_tone=128110-127996-8205-9794-65039
  man_police_officer_medium_skin_tone=128110-127997-8205-9794-65039 man_pouting=128590-8205-9794-65039
  man_pouting_dark_skin_tone=128590-127999-8205-9794-65039 man_pouting_light_skin_tone=128590-127995-8205-9794-65039
  man_pouting_medium-dark_skin_tone=128590-127998-8205-9794-65039
  man_pouting_medium-light_skin_tone=128590-127996-8205-9794-65039
  man_pouting_medium_skin_tone=128590-127997-8205-9794-65039 man_raising_hand=128587-8205-9794-65039
  man_raising_hand_dark_skin_tone=128587-127999-8205-9794-65039
  man_raising_hand_light_skin_tone=128587-127995-8205-9794-65039
  man_raising_hand_medium-dark_skin_tone=128587-127998-8205-9794-65039
  man_raising_hand_medium-light_skin_tone=128587-127996-8205-9794-65039
  man_raising_hand_medium_skin_tone=128587-127997-8205-9794-65039 man_rowing_boat=128675-8205-9794-65039
  man_rowing_boat_dark_skin_tone=128675-127999-8205-9794-65039
  man_rowing_boat_light_skin_tone=128675-127995-8205-9794-65039
  man_rowing_boat_medium-dark_skin_tone=128675-127998-8205-9794-65039
  man_rowing_boat_medium-light_skin_tone=128675-127996-8205-9794-65039
  man_rowing_boat_medium_skin_tone=128675-127997-8205-9794-65039 man_running=127939-8205-9794-65039
  man_running_dark_skin_tone=127939-127999-8205-9794-65039 man_running_light_skin_tone=127939-127995-8205-9794-65039
  man_running_medium-dark_skin_tone=127939-127998-8205-9794-65039
  man_running_medium-light_skin_tone=127939-127996-8205-9794-65039
  man_running_medium_skin_tone=127939-127997-8205-9794-65039 man_scientist=128104-8205-128300
  man_scientist_dark_skin_tone=128104-127999-8205-128300 man_scientist_light_skin_tone=128104-127995-8205-128300
  man_scientist_medium-dark_skin_tone=128104-127998-8205-128300
  man_scientist_medium-light_skin_tone=128104-127996-8205-128300
  man_scientist_medium_skin_tone=128104-127997-8205-128300 man_shrugging=129335-8205-9794-65039
  man_shrugging_dark_skin_tone=129335-127999-8205-9794-65039 man_shrugging_light_skin_tone=129335-127995-8205-9794-65039
  man_shrugging_medium-dark_skin_tone=129335-127998-8205-9794-65039
  man_shrugging_medium-light_skin_tone=129335-127996-8205-9794-65039
  man_shrugging_medium_skin_tone=129335-127997-8205-9794-65039 man_singer=128104-8205-127908
  man_singer_dark_skin_tone=128104-127999-8205-127908 man_singer_light_skin_tone=128104-127995-8205-127908
  man_singer_medium-dark_skin_tone=128104-127998-8205-127908 man_singer_medium-light_skin_tone=128104-127996-8205-127908
  man_singer_medium_skin_tone=128104-127997-8205-127908 man_student=128104-8205-127891
  man_student_dark_skin_tone=128104-127999-8205-127891 man_student_light_skin_tone=128104-127995-8205-127891
  man_student_medium-dark_skin_tone=128104-127998-8205-127891
  man_student_medium-light_skin_tone=128104-127996-8205-127891 man_student_medium_skin_tone=128104-127997-8205-127891
  man_surfing=127940-8205-9794-65039 man_surfing_dark_skin_tone=127940-127999-8205-9794-65039
  man_surfing_light_skin_tone=127940-127995-8205-9794-65039
  man_surfing_medium-dark_skin_tone=127940-127998-8205-9794-65039
  man_surfing_medium-light_skin_tone=127940-127996-8205-9794-65039
  man_surfing_medium_skin_tone=127940-127997-8205-9794-65039 man_swimming=127946-8205-9794-65039
  man_swimming_dark_skin_tone=127946-127999-8205-9794-65039 man_swimming_light_skin_tone=127946-127995-8205-9794-65039
  man_swimming_medium-dark_skin_tone=127946-127998-8205-9794-65039
  man_swimming_medium-light_skin_tone=127946-127996-8205-9794-65039
  man_swimming_medium_skin_tone=127946-127997-8205-9794-65039 man_teacher=128104-8205-127979
  man_teacher_dark_skin_tone=128104-127999-8205-127979 man_teacher_light_skin_tone=128104-127995-8205-127979
  man_teacher_medium-dark_skin_tone=128104-127998-8205-127979
  man_teacher_medium-light_skin_tone=128104-127996-8205-127979 man_teacher_medium_skin_tone=128104-127997-8205-127979
  man_technologist=128104-8205-128187 man_technologist_dark_skin_tone=128104-127999-8205-128187
  man_technologist_light_skin_tone=128104-127995-8205-128187
  man_technologist_medium-dark_skin_tone=128104-127998-8205-128187
  man_technologist_medium-light_skin_tone=128104-127996-8205-128187
  man_technologist_medium_skin_tone=128104-127997-8205-128187 man_tipping_hand=128129-8205-9794-65039
  man_tipping_hand_dark_skin_tone=128129-127999-8205-9794-65039
  man_tipping_hand_light_skin_tone=128129-127995-8205-9794-65039
  man_tipping_hand_medium-dark_skin_tone=128129-127998-8205-9794-65039
  man_tipping_hand_medium-light_skin_tone=128129-127996-8205-9794-65039
  man_tipping_hand_medium_skin_tone=128129-127997-8205-9794-65039 man_vampire=129499-8205-9794-65039
  man_vampire_dark_skin_tone=129499-127999-8205-9794-65039 man_vampire_light_skin_tone=129499-127995-8205-9794-65039
  man_vampire_medium-dark_skin_tone=129499-127998-8205-9794-65039
  man_vampire_medium-light_skin_tone=129499-127996-8205-9794-65039
  man_vampire_medium_skin_tone=129499-127997-8205-9794-65039 man_walking=128694-8205-9794-65039
  man_walking_dark_skin_tone=128694-127999-8205-9794-65039 man_walking_light_skin_tone=128694-127995-8205-9794-65039
  man_walking_medium-dark_skin_tone=128694-127998-8205-9794-65039
  man_walking_medium-light_skin_tone=128694-127996-8205-9794-65039
  man_walking_medium_skin_tone=128694-127997-8205-9794-65039 man_wearing_turban=128115-8205-9794-65039
  man_wearing_turban_dark_skin_tone=128115-127999-8205-9794-65039
  man_wearing_turban_light_skin_tone=128115-127995-8205-9794-65039
  man_wearing_turban_medium-dark_skin_tone=128115-127998-8205-9794-65039
  man_wearing_turban_medium-light_skin_tone=128115-127996-8205-9794-65039
  man_wearing_turban_medium_skin_tone=128115-127997-8205-9794-65039 man_with_probing_cane=128104-8205-129455
  man_with_chinese_cap=128114 man_with_chinese_cap_dark_skin_tone=128114-127999
  man_with_chinese_cap_light_skin_tone=128114-127995 man_with_chinese_cap_medium-dark_skin_tone=128114-127998
  man_with_chinese_cap_medium-light_skin_tone=128114-127996 man_with_chinese_cap_medium_skin_tone=128114-127997
  man_zombie=129503-8205-9794-65039 mango=129389 mantelpiece_clock=128368 manual_wheelchair=129469 man’s_shoe=128094
  map_of_japan=128510 maple_leaf=127809 martial_arts_uniform=129355 mate=129481 meat_on_bone=127830
  mechanical_arm=129470 mechanical_leg=129471 medical_symbol=9877 megaphone=128227 melon=127816 memo=128221
  men_with_bunny_ears=128111-8205-9794-65039 men_wrestling=129340-8205-9794-65039 menorah=128334 men’s_room=128697
  mermaid=129500-8205-9792-65039 mermaid_dark_skin_tone=129500-127999-8205-9792-65039
  mermaid_light_skin_tone=129500-127995-8205-9792-65039 mermaid_medium-dark_skin_tone=129500-127998-8205-9792-65039
  mermaid_medium-light_skin_tone=129500-127996-8205-9792-65039 mermaid_medium_skin_tone=129500-127997-8205-9792-65039
  merman=129500-8205-9794-65039 merman_dark_skin_tone=129500-127999-8205-9794-65039
  merman_light_skin_tone=129500-127995-8205-9794-65039 merman_medium-dark_skin_tone=129500-127998-8205-9794-65039
  merman_medium-light_skin_tone=129500-127996-8205-9794-65039 merman_medium_skin_tone=129500-127997-8205-9794-65039
  merperson=129500 merperson_dark_skin_tone=129500-127999 merperson_light_skin_tone=129500-127995
  merperson_medium-dark_skin_tone=129500-127998 merperson_medium-light_skin_tone=129500-127996
  merperson_medium_skin_tone=129500-127997 metro=128647 microbe=129440 microphone=127908 microscope=128300
  middle_finger=128405 middle_finger_dark_skin_tone=128405-127999 middle_finger_light_skin_tone=128405-127995
  middle_finger_medium-dark_skin_tone=128405-127998 middle_finger_medium-light_skin_tone=128405-127996
  middle_finger_medium_skin_tone=128405-127997 military_medal=127894 milky_way=127756 minibus=128656 moai=128511
  mobile_phone=128241 mobile_phone_off=128244 mobile_phone_with_arrow=128242 money-mouth_face=129297 money_bag=128176
  money_with_wings=128184 monkey=128018 monkey_face=128053 monorail=128669 moon_cake=129390 moon_viewing_ceremony=127889
  mosque=128332 mosquito=129439 motor_boat=128741 motor_scooter=128757 motorcycle=127949 motorized_wheelchair=129468
  motorway=128739 mount_fuji=128507 mountain=9968 mountain_cableway=128672 mountain_railway=128670 mouse=128045
  mouse_face=128045 mouth=128068 movie_camera=127909 mushroom=127812 musical_keyboard=127929 musical_note=127925
  musical_notes=127926 musical_score=127932 muted_speaker=128263 nail_polish=128133
  nail_polish_dark_skin_tone=128133-127999 nail_polish_light_skin_tone=128133-127995
  nail_polish_medium-dark_skin_tone=128133-127998 nail_polish_medium-light_skin_tone=128133-127996
  nail_polish_medium_skin_tone=128133-127997 name_badge=128219 national_park=127966 nauseated_face=129314
  nazar_amulet=129535 necktie=128084 nerd_face=129299 neutral_face=128528 new_moon=127761 new_moon_face=127770
  newspaper=128240 next_track_button=9197 night_with_stars=127747 nine-thirty=128356 nine_o’clock=128344
  no_bicycles=128691 no_entry=9940 no_littering=128687 no_mobile_phones=128245 no_one_under_eighteen=128286
  no_pedestrians=128695 no_smoking=128685 non-potable_water=128689 nose=128067 nose_dark_skin_tone=128067-127999
  nose_light_skin_tone=128067-127995 nose_medium-dark_skin_tone=128067-127998 nose_medium-light_skin_tone=128067-127996
  nose_medium_skin_tone=128067-127997 notebook=128211 notebook_with_decorative_cover=128212 nut_and_bolt=128297
  octopus=128025 oden=127842 office_building=127970 ogre=128121 oil_drum=128738 old_key=128477 old_man=128116
  old_man_dark_skin_tone=128116-127999 old_man_light_skin_tone=128116-127995 old_man_medium-dark_skin_tone=128116-127998
  old_man_medium-light_skin_tone=128116-127996 old_man_medium_skin_tone=128116-127997 old_woman=128117
  old_woman_dark_skin_tone=128117-127999 old_woman_light_skin_tone=128117-127995
  old_woman_medium-dark_skin_tone=128117-127998 old_woman_medium-light_skin_tone=128117-127996
  old_woman_medium_skin_tone=128117-127997 older_adult=129491 older_adult_dark_skin_tone=129491-127999
  older_adult_light_skin_tone=129491-127995 older_adult_medium-dark_skin_tone=129491-127998
  older_adult_medium-light_skin_tone=129491-127996 older_adult_medium_skin_tone=129491-127997 om=128329
  oncoming_automobile=128664 oncoming_bus=128653 oncoming_fist=128074 oncoming_fist_dark_skin_tone=128074-127999
  oncoming_fist_light_skin_tone=128074-127995 oncoming_fist_medium-dark_skin_tone=128074-127998
  oncoming_fist_medium-light_skin_tone=128074-127996 oncoming_fist_medium_skin_tone=128074-127997
  oncoming_police_car=128660 oncoming_taxi=128662 one-piece_swimsuit=129649 one-thirty=128348 one_o’clock=128336
  onion=129477 open_book=128214 open_file_folder=128194 open_hands=128080 open_hands_dark_skin_tone=128080-127999
  open_hands_light_skin_tone=128080-127995 open_hands_medium-dark_skin_tone=128080-127998
  open_hands_medium-light_skin_tone=128080-127996 open_hands_medium_skin_tone=128080-127997
  open_mailbox_with_lowered_flag=128237 open_mailbox_with_raised_flag=128236 optical_disk=128191 orange_book=128217
  orange_circle=128992 orange_heart=129505 orange_square=128999 orangutan=129447 orthodox_cross=9766 otter=129446
  outbox_tray=128228 owl=129417 ox=128002 oyster=129450 package=128230 page_facing_up=128196 page_with_curl=128195
  pager=128223 paintbrush=128396 palm_tree=127796 palms_up_together=129330
  palms_up_together_dark_skin_tone=129330-127999 palms_up_together_light_skin_tone=129330-127995
  palms_up_together_medium-dark_skin_tone=129330-127998 palms_up_together_medium-light_skin_tone=129330-127996
  palms_up_together_medium_skin_tone=129330-127997 pancakes=129374 panda_face=128060 paperclip=128206 parrot=129436
  part_alternation_mark=12349 party_popper=127881 partying_face=129395 passenger_ship=128755 passport_control=128706
  pause_button=9208 paw_prints=128062 peace_symbol=9774 peach=127825 peacock=129434 peanuts=129372 pear=127824
  pen=128394 pencil=128221 penguin=128039 pensive_face=128532 people_holding_hands=129489-8205-129309-8205-129489
  people_with_bunny_ears=128111 people_wrestling=129340 performing_arts=127917 persevering_face=128547
  person_biking=128692 person_biking_dark_skin_tone=128692-127999 person_biking_light_skin_tone=128692-127995
  person_biking_medium-dark_skin_tone=128692-127998 person_biking_medium-light_skin_tone=128692-127996
  person_biking_medium_skin_tone=128692-127997 person_bouncing_ball=9977 person_bouncing_ball_dark_skin_tone=9977-127999
  person_bouncing_ball_light_skin_tone=9977-127995 person_bouncing_ball_medium-dark_skin_tone=9977-127998
  person_bouncing_ball_medium-light_skin_tone=9977-127996 person_bouncing_ball_medium_skin_tone=9977-127997
  person_bowing=128583 person_bowing_dark_skin_tone=128583-127999 person_bowing_light_skin_tone=128583-127995
  person_bowing_medium-dark_skin_tone=128583-127998 person_bowing_medium-light_skin_tone=128583-127996
  person_bowing_medium_skin_tone=128583-127997 person_cartwheeling=129336
  person_cartwheeling_dark_skin_tone=129336-127999 person_cartwheeling_light_skin_tone=129336-127995
  person_cartwheeling_medium-dark_skin_tone=129336-127998 person_cartwheeling_medium-light_skin_tone=129336-127996
  person_cartwheeling_medium_skin_tone=129336-127997 person_climbing=129495 person_climbing_dark_skin_tone=129495-127999
  person_climbing_light_skin_tone=129495-127995 person_climbing_medium-dark_skin_tone=129495-127998
  person_climbing_medium-light_skin_tone=129495-127996 person_climbing_medium_skin_tone=129495-127997
  person_facepalming=129318 person_facepalming_dark_skin_tone=129318-127999
  person_facepalming_light_skin_tone=129318-127995 person_facepalming_medium-dark_skin_tone=129318-127998
  person_facepalming_medium-light_skin_tone=129318-127996 person_facepalming_medium_skin_tone=129318-127997
  person_fencing=129338 person_frowning=128589 person_frowning_dark_skin_tone=128589-127999
  person_frowning_light_skin_tone=128589-127995 person_frowning_medium-dark_skin_tone=128589-127998
  person_frowning_medium-light_skin_tone=128589-127996 person_frowning_medium_skin_tone=128589-127997
  person_gesturing_no=128581 person_gesturing_no_dark_skin_tone=128581-127999
  person_gesturing_no_light_skin_tone=128581-127995 person_gesturing_no_medium-dark_skin_tone=128581-127998
  person_gesturing_no_medium-light_skin_tone=128581-127996 person_gesturing_no_medium_skin_tone=128581-127997
  person_gesturing_ok=128582 person_gesturing_ok_dark_skin_tone=128582-127999
  person_gesturing_ok_light_skin_tone=128582-127995 person_gesturing_ok_medium-dark_skin_tone=128582-127998
  person_gesturing_ok_medium-light_skin_tone=128582-127996 person_gesturing_ok_medium_skin_tone=128582-127997
  person_getting_haircut=128135 person_getting_haircut_dark_skin_tone=128135-127999
  person_getting_haircut_light_skin_tone=128135-127995 person_getting_haircut_medium-dark_skin_tone=128135-127998
  person_getting_haircut_medium-light_skin_tone=128135-127996 person_getting_haircut_medium_skin_tone=128135-127997
  person_getting_massage=128134 person_getting_massage_dark_skin_tone=128134-127999
  person_getting_massage_light_skin_tone=128134-127995 person_getting_massage_medium-dark_skin_tone=128134-127998
  person_getting_massage_medium-light_skin_tone=128134-127996 person_getting_massage_medium_skin_tone=128134-127997
  person_golfing=127948 person_golfing_dark_skin_tone=127948-127999 person_golfing_light_skin_tone=127948-127995
  person_golfing_medium-dark_skin_tone=127948-127998 person_golfing_medium-light_skin_tone=127948-127996
  person_golfing_medium_skin_tone=127948-127997 person_in_bed=128716 person_in_bed_dark_skin_tone=128716-127999
  person_in_bed_light_skin_tone=128716-127995 person_in_bed_medium-dark_skin_tone=128716-127998
  person_in_bed_medium-light_skin_tone=128716-127996 person_in_bed_medium_skin_tone=128716-127997
  person_in_lotus_position=129496 person_in_lotus_position_dark_skin_tone=129496-127999
  person_in_lotus_position_light_skin_tone=129496-127995 person_in_lotus_position_medium-dark_skin_tone=129496-127998
  person_in_lotus_position_medium-light_skin_tone=129496-127996 person_in_lotus_position_medium_skin_tone=129496-127997
  person_in_steamy_room=129494 person_in_steamy_room_dark_skin_tone=129494-127999
  person_in_steamy_room_light_skin_tone=129494-127995 person_in_steamy_room_medium-dark_skin_tone=129494-127998
  person_in_steamy_room_medium-light_skin_tone=129494-127996 person_in_steamy_room_medium_skin_tone=129494-127997
  person_juggling=129337 person_juggling_dark_skin_tone=129337-127999 person_juggling_light_skin_tone=129337-127995
  person_juggling_medium-dark_skin_tone=129337-127998 person_juggling_medium-light_skin_tone=129337-127996
  person_juggling_medium_skin_tone=129337-127997 person_kneeling=129486 person_lifting_weights=127947
  person_lifting_weights_dark_skin_tone=127947-127999 person_lifting_weights_light_skin_tone=127947-127995
  person_lifting_weights_medium-dark_skin_tone=127947-127998 person_lifting_weights_medium-light_skin_tone=127947-127996
  person_lifting_weights_medium_skin_tone=127947-127997 person_mountain_biking=128693
  person_mountain_biking_dark_skin_tone=128693-127999 person_mountain_biking_light_skin_tone=128693-127995
  person_mountain_biking_medium-dark_skin_tone=128693-127998 person_mountain_biking_medium-light_skin_tone=128693-127996
  person_mountain_biking_medium_skin_tone=128693-127997 person_playing_handball=129342
  person_playing_handball_dark_skin_tone=129342-127999 person_playing_handball_light_skin_tone=129342-127995
  person_playing_handball_medium-dark_skin_tone=129342-127998
  person_playing_handball_medium-light_skin_tone=129342-127996 person_playing_handball_medium_skin_tone=129342-127997
  person_playing_water_polo=129341 person_playing_water_polo_dark_skin_tone=129341-127999
  person_playing_water_polo_light_skin_tone=129341-127995 person_playing_water_polo_medium-dark_skin_tone=129341-127998
  person_playing_water_polo_medium-light_skin_tone=129341-127996
  person_playing_water_polo_medium_skin_tone=129341-127997 person_pouting=128590
  person_pouting_dark_skin_tone=128590-127999 person_pouting_light_skin_tone=128590-127995
  person_pouting_medium-dark_skin_tone=128590-127998 person_pouting_medium-light_skin_tone=128590-127996
  person_pouting_medium_skin_tone=128590-127997 person_raising_hand=128587
  person_raising_hand_dark_skin_tone=128587-127999 person_raising_hand_light_skin_tone=128587-127995
  person_raising_hand_medium-dark_skin_tone=128587-127998 person_raising_hand_medium-light_skin_tone=128587-127996
  person_raising_hand_medium_skin_tone=128587-127997 person_rowing_boat=128675
  person_rowing_boat_dark_skin_tone=128675-127999 person_rowing_boat_light_skin_tone=128675-127995
  person_rowing_boat_medium-dark_skin_tone=128675-127998 person_rowing_boat_medium-light_skin_tone=128675-127996
  person_rowing_boat_medium_skin_tone=128675-127997 person_running=127939 person_running_dark_skin_tone=127939-127999
  person_running_light_skin_tone=127939-127995 person_running_medium-dark_skin_tone=127939-127998
  person_running_medium-light_skin_tone=127939-127996 person_running_medium_skin_tone=127939-127997
  person_shrugging=129335 person_shrugging_dark_skin_tone=129335-127999 person_shrugging_light_skin_tone=129335-127995
  person_shrugging_medium-dark_skin_tone=129335-127998 person_shrugging_medium-light_skin_tone=129335-127996
  person_shrugging_medium_skin_tone=129335-127997 person_standing=129485 person_surfing=127940
  person_surfing_dark_skin_tone=127940-127999 person_surfing_light_skin_tone=127940-127995
  person_surfing_medium-dark_skin_tone=127940-127998 person_surfing_medium-light_skin_tone=127940-127996
  person_surfing_medium_skin_tone=127940-127997 person_swimming=127946 person_swimming_dark_skin_tone=127946-127999
  person_swimming_light_skin_tone=127946-127995 person_swimming_medium-dark_skin_tone=127946-127998
  person_swimming_medium-light_skin_tone=127946-127996 person_swimming_medium_skin_tone=127946-127997
  person_taking_bath=128704 person_taking_bath_dark_skin_tone=128704-127999
  person_taking_bath_light_skin_tone=128704-127995 person_taking_bath_medium-dark_skin_tone=128704-127998
  person_taking_bath_medium-light_skin_tone=128704-127996 person_taking_bath_medium_skin_tone=128704-127997
  person_tipping_hand=128129 person_tipping_hand_dark_skin_tone=128129-127999
  person_tipping_hand_light_skin_tone=128129-127995 person_tipping_hand_medium-dark_skin_tone=128129-127998
  person_tipping_hand_medium-light_skin_tone=128129-127996 person_tipping_hand_medium_skin_tone=128129-127997
  person_walking=128694 person_walking_dark_skin_tone=128694-127999 person_walking_light_skin_tone=128694-127995
  person_walking_medium-dark_skin_tone=128694-127998 person_walking_medium-light_skin_tone=128694-127996
  person_walking_medium_skin_tone=128694-127997 person_wearing_turban=128115
  person_wearing_turban_dark_skin_tone=128115-127999 person_wearing_turban_light_skin_tone=128115-127995
  person_wearing_turban_medium-dark_skin_tone=128115-127998 person_wearing_turban_medium-light_skin_tone=128115-127996
  person_wearing_turban_medium_skin_tone=128115-127997 petri_dish=129515 pick=9935 pie=129383 pig=128055 pig_face=128055
  pig_nose=128061 pile_of_poo=128169 pill=128138 pinching_hand=129295 pine_decoration=127885 pineapple=127821
  ping_pong=127955 pirate_flag=127988-8205-9760-65039 pistol=128299 pizza=127829 place_of_worship=128720
  play_button=9654 play_or_pause_button=9199 pleading_face=129402 police_car=128659 police_car_light=128680
  police_officer=128110 police_officer_dark_skin_tone=128110-127999 police_officer_light_skin_tone=128110-127995
  police_officer_medium-dark_skin_tone=128110-127998 police_officer_medium-light_skin_tone=128110-127996
  police_officer_medium_skin_tone=128110-127997 poodle=128041 pool_8_ball=127921 popcorn=127871 post_office=127971
  postal_horn=128239 postbox=128238 pot_of_food=127858 potable_water=128688 potato=129364 poultry_leg=127831
  pound_banknote=128183 pouting_cat_face=128574 pouting_face=128545 prayer_beads=128255 pregnant_woman=129328
  pregnant_woman_dark_skin_tone=129328-127999 pregnant_woman_light_skin_tone=129328-127995
  pregnant_woman_medium-dark_skin_tone=129328-127998 pregnant_woman_medium-light_skin_tone=129328-127996
  pregnant_woman_medium_skin_tone=129328-127997 pretzel=129384 probing_cane=129455 prince=129332
  prince_dark_skin_tone=129332-127999 prince_light_skin_tone=129332-127995 prince_medium-dark_skin_tone=129332-127998
  prince_medium-light_skin_tone=129332-127996 prince_medium_skin_tone=129332-127997 princess=128120
  princess_dark_skin_tone=128120-127999 princess_light_skin_tone=128120-127995
  princess_medium-dark_skin_tone=128120-127998 princess_medium-light_skin_tone=128120-127996
  princess_medium_skin_tone=128120-127997 printer=128424 prohibited=128683 purple_circle=128995 purple_heart=128156
  purple_square=129002 purse=128091 pushpin=128204 question_mark=10067 rabbit=128048 rabbit_face=128048 raccoon=129437
  racing_car=127950 radio=128251 radio_button=128280 radioactive=9762 railway_car=128643 railway_track=128740
  rainbow=127752 rainbow_flag=127987-65039-8205-127752 raised_back_of_hand=129306
  raised_back_of_hand_dark_skin_tone=129306-127999 raised_back_of_hand_light_skin_tone=129306-127995
  raised_back_of_hand_medium-dark_skin_tone=129306-127998 raised_back_of_hand_medium-light_skin_tone=129306-127996
  raised_back_of_hand_medium_skin_tone=129306-127997 raised_fist=9994 raised_fist_dark_skin_tone=9994-127999
  raised_fist_light_skin_tone=9994-127995 raised_fist_medium-dark_skin_tone=9994-127998
  raised_fist_medium-light_skin_tone=9994-127996 raised_fist_medium_skin_tone=9994-127997 raised_hand=9995
  raised_hand_dark_skin_tone=9995-127999 raised_hand_light_skin_tone=9995-127995
  raised_hand_medium-dark_skin_tone=9995-127998 raised_hand_medium-light_skin_tone=9995-127996
  raised_hand_medium_skin_tone=9995-127997 raising_hands=128588 raising_hands_dark_skin_tone=128588-127999
  raising_hands_light_skin_tone=128588-127995 raising_hands_medium-dark_skin_tone=128588-127998
  raising_hands_medium-light_skin_tone=128588-127996 raising_hands_medium_skin_tone=128588-127997 ram=128015 rat=128000
  razor=129682 ringed_planet=129680 receipt=129534 record_button=9210 recycling_symbol=9851 red_apple=127822
  red_circle=128308 red_envelope=129511 red_hair=129456 red-haired_man=128104-8205-129456
  red-haired_woman=128105-8205-129456 red_heart=10084 red_paper_lantern=127982 red_square=128997
  red_triangle_pointed_down=128315 red_triangle_pointed_up=128314 registered=174 relieved_face=128524
  reminder_ribbon=127895 repeat_button=128257 repeat_single_button=128258 rescue_worker’s_helmet=9937 restroom=128699
  reverse_button=9664 revolving_hearts=128158 rhinoceros=129423 ribbon=127872 rice_ball=127833 rice_cracker=127832
  right-facing_fist=129308 right-facing_fist_dark_skin_tone=129308-127999
  right-facing_fist_light_skin_tone=129308-127995 right-facing_fist_medium-dark_skin_tone=129308-127998
  right-facing_fist_medium-light_skin_tone=129308-127996 right-facing_fist_medium_skin_tone=129308-127997
  right_anger_bubble=128495 right_arrow=10145 right_arrow_curving_down=10549 right_arrow_curving_left=8617
  right_arrow_curving_up=10548 ring=128141 roasted_sweet_potato=127840 robot_face=129302 rocket=128640
  roll_of_paper=129531 rolled-up_newspaper=128478 roller_coaster=127906 rolling_on_the_floor_laughing=129315
  rooster=128019 rose=127801 rosette=127989 round_pushpin=128205 rugby_football=127945 running_shirt=127933
  running_shoe=128095 sad_but_relieved_face=128549 safety_pin=129527 safety_vest=129466 salt=129474 sailboat=9973
  sake=127862 sandwich=129386 sari=129403 satellite=128225 satellite_antenna=128225 sauropod=129429 saxophone=127927
  scarf=129507 school=127979 school_backpack=127890 scissors=9986 scorpion=129410 scroll=128220 seat=128186
  see-no-evil_monkey=128584 seedling=127793 selfie=129331 selfie_dark_skin_tone=129331-127999
  selfie_light_skin_tone=129331-127995 selfie_medium-dark_skin_tone=129331-127998
  selfie_medium-light_skin_tone=129331-127996 selfie_medium_skin_tone=129331-127997 service_dog=128021-8205-129466
  seven-thirty=128354 seven_o’clock=128342 shallow_pan_of_food=129368 shamrock=9752 shark=129416 shaved_ice=127847
  sheaf_of_rice=127806 shield=128737 shinto_shrine=9961 ship=128674 shooting_star=127776 shopping_bags=128717
  shopping_cart=128722 shortcake=127856 shorts=129651 shower=128703 shrimp=129424 shuffle_tracks_button=128256
  shushing_face=129323 sign_of_the_horns=129304 sign_of_the_horns_dark_skin_tone=129304-127999
  sign_of_the_horns_light_skin_tone=129304-127995 sign_of_the_horns_medium-dark_skin_tone=129304-127998
  sign_of_the_horns_medium-light_skin_tone=129304-127996 sign_of_the_horns_medium_skin_tone=129304-127997
  six-thirty=128353 six_o’clock=128341 skateboard=128761 skier=9975 skis=127935 skull=128128 skull_and_crossbones=9760
  skunk=129448 sled=128759 sleeping_face=128564 sleepy_face=128554 slightly_frowning_face=128577
  slightly_smiling_face=128578 slot_machine=127920 sloth=129445 small_airplane=128745 small_blue_diamond=128313
  small_orange_diamond=128312 smiling_cat_face_with_heart-eyes=128571 smiling_face=9786 smiling_face_with_halo=128519
  smiling_face_with_3_hearts=129392 smiling_face_with_heart-eyes=128525 smiling_face_with_horns=128520
  smiling_face_with_smiling_eyes=128522 smiling_face_with_sunglasses=128526 smirking_face=128527 snail=128012
  snake=128013 sneezing_face=129319 snow-capped_mountain=127956 snowboarder=127938
  snowboarder_dark_skin_tone=127938-127999 snowboarder_light_skin_tone=127938-127995
  snowboarder_medium-dark_skin_tone=127938-127998 snowboarder_medium-light_skin_tone=127938-127996
  snowboarder_medium_skin_tone=127938-127997 snowflake=10052 snowman=9731 snowman_without_snow=9924 soap=129532
  soccer_ball=9917 socks=129510 softball=129358 soft_ice_cream=127846 spade_suit=9824 spaghetti=127837 sparkle=10055
  sparkler=127879 sparkles=10024 sparkling_heart=128150 speak-no-evil_monkey=128586 speaker_high_volume=128266
  speaker_low_volume=128264 speaker_medium_volume=128265 speaking_head=128483 speech_balloon=128172 speedboat=128676
  spider=128375 spider_web=128376 spiral_calendar=128467 spiral_notepad=128466 spiral_shell=128026 spoon=129348
  sponge=129533 sport_utility_vehicle=128665 sports_medal=127941 spouting_whale=128051 squid=129425
  squinting_face_with_tongue=128541 stadium=127967 star-struck=129321 star_and_crescent=9770 star_of_david=10017
  station=128649 steaming_bowl=127836 stethoscope=129658 stop_button=9209 stop_sign=128721 stopwatch=9201
  straight_ruler=128207 strawberry=127827 studio_microphone=127897 stuffed_flatbread=129369 sun=9728
  sun_behind_cloud=9925 sun_behind_large_cloud=127781 sun_behind_rain_cloud=127782 sun_behind_small_cloud=127780
  sun_with_face=127774 sunflower=127803 sunglasses=128526 sunrise=127749 sunrise_over_mountains=127748 sunset=127751
  superhero=129464 supervillain=129465 sushi=127843 suspension_railway=128671 swan=129442 sweat_droplets=128166
  synagogue=128333 syringe=128137 t-shirt=128085 taco=127790 takeout_box=129377 tanabata_tree=127883 tangerine=127818
  taxi=128661 teacup_without_handle=127861 tear-off_calendar=128198 teddy_bear=129528 telephone=9742
  telephone_receiver=128222 telescope=128301 television=128250 ten-thirty=128357 ten_o’clock=128345 tennis=127934
  tent=9978 test_tube=129514 thermometer=127777 thinking_face=129300 thought_balloon=128173 thread=129525
  three-thirty=128350 three_o’clock=128338 thumbs_down=128078 thumbs_down_dark_skin_tone=128078-127999
  thumbs_down_light_skin_tone=128078-127995 thumbs_down_medium-dark_skin_tone=128078-127998
  thumbs_down_medium-light_skin_tone=128078-127996 thumbs_down_medium_skin_tone=128078-127997 thumbs_up=128077
  thumbs_up_dark_skin_tone=128077-127999 thumbs_up_light_skin_tone=128077-127995
  thumbs_up_medium-dark_skin_tone=128077-127998 thumbs_up_medium-light_skin_tone=128077-127996
  thumbs_up_medium_skin_tone=128077-127997 ticket=127915 tiger=128047 tiger_face=128047 timer_clock=9202
  tired_face=128555 toolbox=129520 toilet=128701 tomato=127813 tongue=128069 tooth=129463 top_hat=127913 tornado=127786
  trackball=128434 tractor=128668 trade_mark=8482 train=128651 tram=128650 tram_car=128651 triangular_flag=128681
  triangular_ruler=128208 trident_emblem=128305 trolleybus=128654 trophy=127942 tropical_drink=127865
  tropical_fish=128032 trumpet=127930 tulip=127799 tumbler_glass=129347 turtle=128034 twelve-thirty=128359
  twelve_o’clock=128347 two-hump_camel=128043 two-thirty=128349 two_hearts=128149 two_men_holding_hands=128108
  two_o’clock=128337 two_women_holding_hands=128109 umbrella=9730 umbrella_on_ground=9969 umbrella_with_rain_drops=9748
  unamused_face=128530 unicorn_face=129412 unlocked=128275 up-down_arrow=8597 up-left_arrow=8598 up-right_arrow=8599
  up_arrow=11014 upside-down_face=128579 upwards_button=128316 vampire=129499 vampire_dark_skin_tone=129499-127999
  vampire_light_skin_tone=129499-127995 vampire_medium-dark_skin_tone=129499-127998
  vampire_medium-light_skin_tone=129499-127996 vampire_medium_skin_tone=129499-127997 vertical_traffic_light=128678
  vibration_mode=128243 victory_hand=9996 victory_hand_dark_skin_tone=9996-127999
  victory_hand_light_skin_tone=9996-127995 victory_hand_medium-dark_skin_tone=9996-127998
  victory_hand_medium-light_skin_tone=9996-127996 victory_hand_medium_skin_tone=9996-127997 video_camera=128249
  video_game=127918 videocassette=128252 violin=127931 volcano=127755 volleyball=127952 vulcan_salute=128406
  vulcan_salute_dark_skin_tone=128406-127999 vulcan_salute_light_skin_tone=128406-127995
  vulcan_salute_medium-dark_skin_tone=128406-127998 vulcan_salute_medium-light_skin_tone=128406-127996
  vulcan_salute_medium_skin_tone=128406-127997 waffle=129479 waning_crescent_moon=127768 waning_gibbous_moon=127766
  warning=9888 wastebasket=128465 watch=8986 water_buffalo=128003 water_closet=128702 water_wave=127754
  watermelon=127817 waving_hand=128075 waving_hand_dark_skin_tone=128075-127999
  waving_hand_light_skin_tone=128075-127995 waving_hand_medium-dark_skin_tone=128075-127998
  waving_hand_medium-light_skin_tone=128075-127996 waving_hand_medium_skin_tone=128075-127997 wavy_dash=12336
  waxing_crescent_moon=127762 waxing_gibbous_moon=127764 weary_cat_face=128576 weary_face=128553 wedding=128146
  whale=128051 wheel_of_dharma=9784 wheelchair_symbol=9855 white_circle=9898 white_exclamation_mark=10069
  white_flag=127987 white_flower=128174 white_hair=129459 white-haired_man=128104-8205-129459
  white-haired_woman=128105-8205-129459 white_heart=129293 white_heavy_check_mark=9989 white_large_square=11036
  white_medium-small_square=9725 white_medium_square=9723 white_medium_star=11088 white_question_mark=10068
  white_small_square=9643 white_square_button=128307 wilted_flower=129344 wind_chime=127888 wind_face=127788
  wine_glass=127863 winking_face=128521 winking_face_with_tongue=128540 wolf_face=128058 woman=128105
  woman_artist=128105-8205-127912 woman_artist_dark_skin_tone=128105-127999-8205-127912
  woman_artist_light_skin_tone=128105-127995-8205-127912 woman_artist_medium-dark_skin_tone=128105-127998-8205-127912
  woman_artist_medium-light_skin_tone=128105-127996-8205-127912 woman_artist_medium_skin_tone=128105-127997-8205-127912
  woman_astronaut=128105-8205-128640 woman_astronaut_dark_skin_tone=128105-127999-8205-128640
  woman_astronaut_light_skin_tone=128105-127995-8205-128640
  woman_astronaut_medium-dark_skin_tone=128105-127998-8205-128640
  woman_astronaut_medium-light_skin_tone=128105-127996-8205-128640
  woman_astronaut_medium_skin_tone=128105-127997-8205-128640 woman_biking=128692-8205-9792-65039
  woman_biking_dark_skin_tone=128692-127999-8205-9792-65039 woman_biking_light_skin_tone=128692-127995-8205-9792-65039
  woman_biking_medium-dark_skin_tone=128692-127998-8205-9792-65039
  woman_biking_medium-light_skin_tone=128692-127996-8205-9792-65039
  woman_biking_medium_skin_tone=128692-127997-8205-9792-65039 woman_bouncing_ball=9977-65039-8205-9792-65039
  woman_bouncing_ball_dark_skin_tone=9977-127999-8205-9792-65039
  woman_bouncing_ball_light_skin_tone=9977-127995-8205-9792-65039
  woman_bouncing_ball_medium-dark_skin_tone=9977-127998-8205-9792-65039
  woman_bouncing_ball_medium-light_skin_tone=9977-127996-8205-9792-65039
  woman_bouncing_ball_medium_skin_tone=9977-127997-8205-9792-65039 woman_bowing=128583-8205-9792-65039
  woman_bowing_dark_skin_tone=128583-127999-8205-9792-65039 woman_bowing_light_skin_tone=128583-127995-8205-9792-65039
  woman_bowing_medium-dark_skin_tone=128583-127998-8205-9792-65039
  woman_bowing_medium-light_skin_tone=128583-127996-8205-9792-65039
  woman_bowing_medium_skin_tone=128583-127997-8205-9792-65039 woman_cartwheeling=129336-8205-9792-65039
  woman_cartwheeling_dark_skin_tone=129336-127999-8205-9792-65039
  woman_cartwheeling_light_skin_tone=129336-127995-8205-9792-65039
  woman_cartwheeling_medium-dark_skin_tone=129336-127998-8205-9792-65039
  woman_cartwheeling_medium-light_skin_tone=129336-127996-8205-9792-65039
  woman_cartwheeling_medium_skin_tone=129336-127997-8205-9792-65039 woman_climbing=129495-8205-9792-65039
  woman_climbing_dark_skin_tone=129495-127999-8205-9792-65039
  woman_climbing_light_skin_tone=129495-127995-8205-9792-65039
  woman_climbing_medium-dark_skin_tone=129495-127998-8205-9792-65039
  woman_climbing_medium-light_skin_tone=129495-127996-8205-9792-65039
  woman_climbing_medium_skin_tone=129495-127997-8205-9792-65039 woman_construction_worker=128119-8205-9792-65039
  woman_construction_worker_dark_skin_tone=128119-127999-8205-9792-65039
  woman_construction_worker_light_skin_tone=128119-127995-8205-9792-65039
  woman_construction_worker_medium-dark_skin_tone=128119-127998-8205-9792-65039
  woman_construction_worker_medium-light_skin_tone=128119-127996-8205-9792-65039
  woman_construction_worker_medium_skin_tone=128119-127997-8205-9792-65039 woman_cook=128105-8205-127859
  woman_cook_dark_skin_tone=128105-127999-8205-127859 woman_cook_light_skin_tone=128105-127995-8205-127859
  woman_cook_medium-dark_skin_tone=128105-127998-8205-127859 woman_cook_medium-light_skin_tone=128105-127996-8205-127859
  woman_cook_medium_skin_tone=128105-127997-8205-127859 woman_dancing=128131 woman_dancing_dark_skin_tone=128131-127999
  woman_dancing_light_skin_tone=128131-127995 woman_dancing_medium-dark_skin_tone=128131-127998
  woman_dancing_medium-light_skin_tone=128131-127996 woman_dancing_medium_skin_tone=128131-127997
  woman_dark_skin_tone=128105-127999 woman_detective=128373-65039-8205-9792-65039
  woman_detective_dark_skin_tone=128373-127999-8205-9792-65039
  woman_detective_light_skin_tone=128373-127995-8205-9792-65039
  woman_detective_medium-dark_skin_tone=128373-127998-8205-9792-65039
  woman_detective_medium-light_skin_tone=128373-127996-8205-9792-65039
  woman_detective_medium_skin_tone=128373-127997-8205-9792-65039 woman_elf=129501-8205-9792-65039
  woman_elf_dark_skin_tone=129501-127999-8205-9792-65039 woman_elf_light_skin_tone=129501-127995-8205-9792-65039
  woman_elf_medium-dark_skin_tone=129501-127998-8205-9792-65039
  woman_elf_medium-light_skin_tone=129501-127996-8205-9792-65039
  woman_elf_medium_skin_tone=129501-127997-8205-9792-65039 woman_facepalming=129318-8205-9792-65039
  woman_facepalming_dark_skin_tone=129318-127999-8205-9792-65039
  woman_facepalming_light_skin_tone=129318-127995-8205-9792-65039
  woman_facepalming_medium-dark_skin_tone=129318-127998-8205-9792-65039
  woman_facepalming_medium-light_skin_tone=129318-127996-8205-9792-65039
  woman_facepalming_medium_skin_tone=129318-127997-8205-9792-65039 woman_factory_worker=128105-8205-127981
  woman_factory_worker_dark_skin_tone=128105-127999-8205-127981
  woman_factory_worker_light_skin_tone=128105-127995-8205-127981
  woman_factory_worker_medium-dark_skin_tone=128105-127998-8205-127981
  woman_factory_worker_medium-light_skin_tone=128105-127996-8205-127981
  woman_factory_worker_medium_skin_tone=128105-127997-8205-127981 woman_fairy=129498-8205-9792-65039
  woman_fairy_dark_skin_tone=129498-127999-8205-9792-65039 woman_fairy_light_skin_tone=129498-127995-8205-9792-65039
  woman_fairy_medium-dark_skin_tone=129498-127998-8205-9792-65039
  woman_fairy_medium-light_skin_tone=129498-127996-8205-9792-65039
  woman_fairy_medium_skin_tone=129498-127997-8205-9792-65039 woman_farmer=128105-8205-127806
  woman_farmer_dark_skin_tone=128105-127999-8205-127806 woman_farmer_light_skin_tone=128105-127995-8205-127806
  woman_farmer_medium-dark_skin_tone=128105-127998-8205-127806
  woman_farmer_medium-light_skin_tone=128105-127996-8205-127806 woman_farmer_medium_skin_tone=128105-127997-8205-127806
  woman_firefighter=128105-8205-128658 woman_firefighter_dark_skin_tone=128105-127999-8205-128658
  woman_firefighter_light_skin_tone=128105-127995-8205-128658
  woman_firefighter_medium-dark_skin_tone=128105-127998-8205-128658
  woman_firefighter_medium-light_skin_tone=128105-127996-8205-128658
  woman_firefighter_medium_skin_tone=128105-127997-8205-128658 woman_frowning=128589-8205-9792-65039
  woman_frowning_dark_skin_tone=128589-127999-8205-9792-65039
  woman_frowning_light_skin_tone=128589-127995-8205-9792-65039
  woman_frowning_medium-dark_skin_tone=128589-127998-8205-9792-65039
  woman_frowning_medium-light_skin_tone=128589-127996-8205-9792-65039
  woman_frowning_medium_skin_tone=128589-127997-8205-9792-65039 woman_genie=129502-8205-9792-65039
  woman_gesturing_no=128581-8205-9792-65039 woman_gesturing_no_dark_skin_tone=128581-127999-8205-9792-65039
  woman_gesturing_no_light_skin_tone=128581-127995-8205-9792-65039
  woman_gesturing_no_medium-dark_skin_tone=128581-127998-8205-9792-65039
  woman_gesturing_no_medium-light_skin_tone=128581-127996-8205-9792-65039
  woman_gesturing_no_medium_skin_tone=128581-127997-8205-9792-65039 woman_gesturing_ok=128582-8205-9792-65039
  woman_gesturing_ok_dark_skin_tone=128582-127999-8205-9792-65039
  woman_gesturing_ok_light_skin_tone=128582-127995-8205-9792-65039
  woman_gesturing_ok_medium-dark_skin_tone=128582-127998-8205-9792-65039
  woman_gesturing_ok_medium-light_skin_tone=128582-127996-8205-9792-65039
  woman_gesturing_ok_medium_skin_tone=128582-127997-8205-9792-65039 woman_getting_haircut=128135-8205-9792-65039
  woman_getting_haircut_dark_skin_tone=128135-127999-8205-9792-65039
  woman_getting_haircut_light_skin_tone=128135-127995-8205-9792-65039
  woman_getting_haircut_medium-dark_skin_tone=128135-127998-8205-9792-65039
  woman_getting_haircut_medium-light_skin_tone=128135-127996-8205-9792-65039
  woman_getting_haircut_medium_skin_tone=128135-127997-8205-9792-65039 woman_getting_massage=128134-8205-9792-65039
  woman_getting_massage_dark_skin_tone=128134-127999-8205-9792-65039
  woman_getting_massage_light_skin_tone=128134-127995-8205-9792-65039
  woman_getting_massage_medium-dark_skin_tone=128134-127998-8205-9792-65039
  woman_getting_massage_medium-light_skin_tone=128134-127996-8205-9792-65039
  woman_getting_massage_medium_skin_tone=128134-127997-8205-9792-65039 woman_golfing=127948-65039-8205-9792-65039
  woman_golfing_dark_skin_tone=127948-127999-8205-9792-65039 woman_golfing_light_skin_tone=127948-127995-8205-9792-65039
  woman_golfing_medium-dark_skin_tone=127948-127998-8205-9792-65039
  woman_golfing_medium-light_skin_tone=127948-127996-8205-9792-65039
  woman_golfing_medium_skin_tone=127948-127997-8205-9792-65039 woman_guard=128130-8205-9792-65039
  woman_guard_dark_skin_tone=128130-127999-8205-9792-65039 woman_guard_light_skin_tone=128130-127995-8205-9792-65039
  woman_guard_medium-dark_skin_tone=128130-127998-8205-9792-65039
  woman_guard_medium-light_skin_tone=128130-127996-8205-9792-65039
  woman_guard_medium_skin_tone=128130-127997-8205-9792-65039 woman_health_worker=128105-8205-9877-65039
  woman_health_worker_dark_skin_tone=128105-127999-8205-9877-65039
  woman_health_worker_light_skin_tone=128105-127995-8205-9877-65039
  woman_health_worker_medium-dark_skin_tone=128105-127998-8205-9877-65039
  woman_health_worker_medium-light_skin_tone=128105-127996-8205-9877-65039
  woman_health_worker_medium_skin_tone=128105-127997-8205-9877-65039 woman_in_lotus_position=129496-8205-9792-65039
  woman_in_lotus_position_dark_skin_tone=129496-127999-8205-9792-65039
  woman_in_lotus_position_light_skin_tone=129496-127995-8205-9792-65039
  woman_in_lotus_position_medium-dark_skin_tone=129496-127998-8205-9792-65039
  woman_in_lotus_position_medium-light_skin_tone=129496-127996-8205-9792-65039
  woman_in_lotus_position_medium_skin_tone=129496-127997-8205-9792-65039 woman_in_manual_wheelchair=128105-8205-129469
  woman_in_motorized_wheelchair=128105-8205-129468 woman_in_steamy_room=129494-8205-9792-65039
  woman_in_steamy_room_dark_skin_tone=129494-127999-8205-9792-65039
  woman_in_steamy_room_light_skin_tone=129494-127995-8205-9792-65039
  woman_in_steamy_room_medium-dark_skin_tone=129494-127998-8205-9792-65039
  woman_in_steamy_room_medium-light_skin_tone=129494-127996-8205-9792-65039
  woman_in_steamy_room_medium_skin_tone=129494-127997-8205-9792-65039 woman_judge=128105-8205-9878-65039
  woman_judge_dark_skin_tone=128105-127999-8205-9878-65039 woman_judge_light_skin_tone=128105-127995-8205-9878-65039
  woman_judge_medium-dark_skin_tone=128105-127998-8205-9878-65039
  woman_judge_medium-light_skin_tone=128105-127996-8205-9878-65039
  woman_judge_medium_skin_tone=128105-127997-8205-9878-65039 woman_juggling=129337-8205-9792-65039
  woman_juggling_dark_skin_tone=129337-127999-8205-9792-65039
  woman_juggling_light_skin_tone=129337-127995-8205-9792-65039
  woman_juggling_medium-dark_skin_tone=129337-127998-8205-9792-65039
  woman_juggling_medium-light_skin_tone=129337-127996-8205-9792-65039
  woman_juggling_medium_skin_tone=129337-127997-8205-9792-65039 woman_lifting_weights=127947-65039-8205-9792-65039
  woman_lifting_weights_dark_skin_tone=127947-127999-8205-9792-65039
  woman_lifting_weights_light_skin_tone=127947-127995-8205-9792-65039
  woman_lifting_weights_medium-dark_skin_tone=127947-127998-8205-9792-65039
  woman_lifting_weights_medium-light_skin_tone=127947-127996-8205-9792-65039
  woman_lifting_weights_medium_skin_tone=127947-127997-8205-9792-65039 woman_light_skin_tone=128105-127995
  woman_mage=129497-8205-9792-65039 woman_mage_dark_skin_tone=129497-127999-8205-9792-65039
  woman_mage_light_skin_tone=129497-127995-8205-9792-65039
  woman_mage_medium-dark_skin_tone=129497-127998-8205-9792-65039
  woman_mage_medium-light_skin_tone=129497-127996-8205-9792-65039
  woman_mage_medium_skin_tone=129497-127997-8205-9792-65039 woman_mechanic=128105-8205-128295
  woman_mechanic_dark_skin_tone=128105-127999-8205-128295 woman_mechanic_light_skin_tone=128105-127995-8205-128295
  woman_mechanic_medium-dark_skin_tone=128105-127998-8205-128295
  woman_mechanic_medium-light_skin_tone=128105-127996-8205-128295
  woman_mechanic_medium_skin_tone=128105-127997-8205-128295 woman_medium-dark_skin_tone=128105-127998
  woman_medium-light_skin_tone=128105-127996 woman_medium_skin_tone=128105-127997
  woman_mountain_biking=128693-8205-9792-65039 woman_mountain_biking_dark_skin_tone=128693-127999-8205-9792-65039
  woman_mountain_biking_light_skin_tone=128693-127995-8205-9792-65039
  woman_mountain_biking_medium-dark_skin_tone=128693-127998-8205-9792-65039
  woman_mountain_biking_medium-light_skin_tone=128693-127996-8205-9792-65039
  woman_mountain_biking_medium_skin_tone=128693-127997-8205-9792-65039 woman_office_worker=128105-8205-128188
  woman_office_worker_dark_skin_tone=128105-127999-8205-128188
  woman_office_worker_light_skin_tone=128105-127995-8205-128188
  woman_office_worker_medium-dark_skin_tone=128105-127998-8205-128188
  woman_office_worker_medium-light_skin_tone=128105-127996-8205-128188
  woman_office_worker_medium_skin_tone=128105-127997-8205-128188 woman_pilot=128105-8205-9992-65039
  woman_pilot_dark_skin_tone=128105-127999-8205-9992-65039 woman_pilot_light_skin_tone=128105-127995-8205-9992-65039
  woman_pilot_medium-dark_skin_tone=128105-127998-8205-9992-65039
  woman_pilot_medium-light_skin_tone=128105-127996-8205-9992-65039
  woman_pilot_medium_skin_tone=128105-127997-8205-9992-65039 woman_playing_handball=129342-8205-9792-65039
  woman_playing_handball_dark_skin_tone=129342-127999-8205-9792-65039
  woman_playing_handball_light_skin_tone=129342-127995-8205-9792-65039
  woman_playing_handball_medium-dark_skin_tone=129342-127998-8205-9792-65039
  woman_playing_handball_medium-light_skin_tone=129342-127996-8205-9792-65039
  woman_playing_handball_medium_skin_tone=129342-127997-8205-9792-65039 woman_playing_water_polo=129341-8205-9792-65039
  woman_playing_water_polo_dark_skin_tone=129341-127999-8205-9792-65039
  woman_playing_water_polo_light_skin_tone=129341-127995-8205-9792-65039
  woman_playing_water_polo_medium-dark_skin_tone=129341-127998-8205-9792-65039
  woman_playing_water_polo_medium-light_skin_tone=129341-127996-8205-9792-65039
  woman_playing_water_polo_medium_skin_tone=129341-127997-8205-9792-65039 woman_police_officer=128110-8205-9792-65039
  woman_police_officer_dark_skin_tone=128110-127999-8205-9792-65039
  woman_police_officer_light_skin_tone=128110-127995-8205-9792-65039
  woman_police_officer_medium-dark_skin_tone=128110-127998-8205-9792-65039
  woman_police_officer_medium-light_skin_tone=128110-127996-8205-9792-65039
  woman_police_officer_medium_skin_tone=128110-127997-8205-9792-65039 woman_pouting=128590-8205-9792-65039
  woman_pouting_dark_skin_tone=128590-127999-8205-9792-65039 woman_pouting_light_skin_tone=128590-127995-8205-9792-65039
  woman_pouting_medium-dark_skin_tone=128590-127998-8205-9792-65039
  woman_pouting_medium-light_skin_tone=128590-127996-8205-9792-65039
  woman_pouting_medium_skin_tone=128590-127997-8205-9792-65039 woman_raising_hand=128587-8205-9792-65039
  woman_raising_hand_dark_skin_tone=128587-127999-8205-9792-65039
  woman_raising_hand_light_skin_tone=128587-127995-8205-9792-65039
  woman_raising_hand_medium-dark_skin_tone=128587-127998-8205-9792-65039
  woman_raising_hand_medium-light_skin_tone=128587-127996-8205-9792-65039
  woman_raising_hand_medium_skin_tone=128587-127997-8205-9792-65039 woman_rowing_boat=128675-8205-9792-65039
  woman_rowing_boat_dark_skin_tone=128675-127999-8205-9792-65039
  woman_rowing_boat_light_skin_tone=128675-127995-8205-9792-65039
  woman_rowing_boat_medium-dark_skin_tone=128675-127998-8205-9792-65039
  woman_rowing_boat_medium-light_skin_tone=128675-127996-8205-9792-65039
  woman_rowing_boat_medium_skin_tone=128675-127997-8205-9792-65039 woman_running=127939-8205-9792-65039
  woman_running_dark_skin_tone=127939-127999-8205-9792-65039 woman_running_light_skin_tone=127939-127995-8205-9792-65039
  woman_running_medium-dark_skin_tone=127939-127998-8205-9792-65039
  woman_running_medium-light_skin_tone=127939-127996-8205-9792-65039
  woman_running_medium_skin_tone=127939-127997-8205-9792-65039 woman_scientist=128105-8205-128300
  woman_scientist_dark_skin_tone=128105-127999-8205-128300 woman_scientist_light_skin_tone=128105-127995-8205-128300
  woman_scientist_medium-dark_skin_tone=128105-127998-8205-128300
  woman_scientist_medium-light_skin_tone=128105-127996-8205-128300
  woman_scientist_medium_skin_tone=128105-127997-8205-128300 woman_shrugging=129335-8205-9792-65039
  woman_shrugging_dark_skin_tone=129335-127999-8205-9792-65039
  woman_shrugging_light_skin_tone=129335-127995-8205-9792-65039
  woman_shrugging_medium-dark_skin_tone=129335-127998-8205-9792-65039
  woman_shrugging_medium-light_skin_tone=129335-127996-8205-9792-65039
  woman_shrugging_medium_skin_tone=129335-127997-8205-9792-65039 woman_singer=128105-8205-127908
  woman_singer_dark_skin_tone=128105-127999-8205-127908 woman_singer_light_skin_tone=128105-127995-8205-127908
  woman_singer_medium-dark_skin_tone=128105-127998-8205-127908
  woman_singer_medium-light_skin_tone=128105-127996-8205-127908 woman_singer_medium_skin_tone=128105-127997-8205-127908
  woman_student=128105-8205-127891 woman_student_dark_skin_tone=128105-127999-8205-127891
  woman_student_light_skin_tone=128105-127995-8205-127891 woman_student_medium-dark_skin_tone=128105-127998-8205-127891
  woman_student_medium-light_skin_tone=128105-127996-8205-127891
  woman_student_medium_skin_tone=128105-127997-8205-127891 woman_surfing=127940-8205-9792-65039
  woman_surfing_dark_skin_tone=127940-127999-8205-9792-65039 woman_surfing_light_skin_tone=127940-127995-8205-9792-65039
  woman_surfing_medium-dark_skin_tone=127940-127998-8205-9792-65039
  woman_surfing_medium-light_skin_tone=127940-127996-8205-9792-65039
  woman_surfing_medium_skin_tone=127940-127997-8205-9792-65039 woman_swimming=127946-8205-9792-65039
  woman_swimming_dark_skin_tone=127946-127999-8205-9792-65039
  woman_swimming_light_skin_tone=127946-127995-8205-9792-65039
  woman_swimming_medium-dark_skin_tone=127946-127998-8205-9792-65039
  woman_swimming_medium-light_skin_tone=127946-127996-8205-9792-65039
  woman_swimming_medium_skin_tone=127946-127997-8205-9792-65039 woman_teacher=128105-8205-127979
  woman_teacher_dark_skin_tone=128105-127999-8205-127979 woman_teacher_light_skin_tone=128105-127995-8205-127979
  woman_teacher_medium-dark_skin_tone=128105-127998-8205-127979
  woman_teacher_medium-light_skin_tone=128105-127996-8205-127979
  woman_teacher_medium_skin_tone=128105-127997-8205-127979 woman_technologist=128105-8205-128187
  woman_technologist_dark_skin_tone=128105-127999-8205-128187
  woman_technologist_light_skin_tone=128105-127995-8205-128187
  woman_technologist_medium-dark_skin_tone=128105-127998-8205-128187
  woman_technologist_medium-light_skin_tone=128105-127996-8205-128187
  woman_technologist_medium_skin_tone=128105-127997-8205-128187 woman_tipping_hand=128129-8205-9792-65039
  woman_tipping_hand_dark_skin_tone=128129-127999-8205-9792-65039
  woman_tipping_hand_light_skin_tone=128129-127995-8205-9792-65039
  woman_tipping_hand_medium-dark_skin_tone=128129-127998-8205-9792-65039
  woman_tipping_hand_medium-light_skin_tone=128129-127996-8205-9792-65039
  woman_tipping_hand_medium_skin_tone=128129-127997-8205-9792-65039 woman_vampire=129499-8205-9792-65039
  woman_vampire_dark_skin_tone=129499-127999-8205-9792-65039 woman_vampire_light_skin_tone=129499-127995-8205-9792-65039
  woman_vampire_medium-dark_skin_tone=129499-127998-8205-9792-65039
  woman_vampire_medium-light_skin_tone=129499-127996-8205-9792-65039
  woman_vampire_medium_skin_tone=129499-127997-8205-9792-65039 woman_walking=128694-8205-9792-65039
  woman_walking_dark_skin_tone=128694-127999-8205-9792-65039 woman_walking_light_skin_tone=128694-127995-8205-9792-65039
  woman_walking_medium-dark_skin_tone=128694-127998-8205-9792-65039
  woman_walking_medium-light_skin_tone=128694-127996-8205-9792-65039
  woman_walking_medium_skin_tone=128694-127997-8205-9792-65039 woman_wearing_turban=128115-8205-9792-65039
  woman_wearing_turban_dark_skin_tone=128115-127999-8205-9792-65039
  woman_wearing_turban_light_skin_tone=128115-127995-8205-9792-65039
  woman_wearing_turban_medium-dark_skin_tone=128115-127998-8205-9792-65039
  woman_wearing_turban_medium-light_skin_tone=128115-127996-8205-9792-65039
  woman_wearing_turban_medium_skin_tone=128115-127997-8205-9792-65039 woman_with_headscarf=129493
  woman_with_headscarf_dark_skin_tone=129493-127999 woman_with_headscarf_light_skin_tone=129493-127995
  woman_with_headscarf_medium-dark_skin_tone=129493-127998 woman_with_headscarf_medium-light_skin_tone=129493-127996
  woman_with_headscarf_medium_skin_tone=129493-127997 woman_with_probing_cane=128105-8205-129455
  woman_zombie=129503-8205-9792-65039 woman’s_boot=128098 woman’s_clothes=128090 woman’s_hat=128082
  woman’s_sandal=128097 women_with_bunny_ears=128111-8205-9792-65039 women_wrestling=129340-8205-9792-65039
  women’s_room=128698 woozy_face=129396 world_map=128506 worried_face=128543 wrapped_gift=127873 wrench=128295
  writing_hand=9997 writing_hand_dark_skin_tone=9997-127999 writing_hand_light_skin_tone=9997-127995
  writing_hand_medium-dark_skin_tone=9997-127998 writing_hand_medium-light_skin_tone=9997-127996
  writing_hand_medium_skin_tone=9997-127997 yarn=129526 yawning_face=129393 yellow_circle=128993 yellow_heart=128155
  yellow_square=129000 yen_banknote=128180 yo-yo=129664 yin_yang=9775 zany_face=129322 zebra=129427
  zipper-mouth_face=129296 zombie=129503 zzz=128164 åland_islands=127462-127485 keycap_asterisk=42-8419
  keycap_digit_eight=56-8419 keycap_digit_five=53-8419 keycap_digit_four=52-8419 keycap_digit_nine=57-8419
  keycap_digit_one=49-8419 keycap_digit_seven=55-8419 keycap_digit_six=54-8419 keycap_digit_three=51-8419
  keycap_digit_two=50-8419 keycap_digit_zero=48-8419 keycap_number_sign=35-8419 light_skin_tone=127995
  medium_light_skin_tone=127996 medium_skin_tone=127997 medium_dark_skin_tone=127998 dark_skin_tone=127999
  regional_indicator_symbol_letter_a=127462 regional_indicator_symbol_letter_b=127463
  regional_indicator_symbol_letter_c=127464 regional_indicator_symbol_letter_d=127465
  regional_indicator_symbol_letter_e=127466 regional_indicator_symbol_letter_f=127467
  regional_indicator_symbol_letter_g=127468 regional_indicator_symbol_letter_h=127469
  regional_indicator_symbol_letter_i=127470 regional_indicator_symbol_letter_j=127471
  regional_indicator_symbol_letter_k=127472 regional_indicator_symbol_letter_l=127473
  regional_indicator_symbol_letter_m=127474 regional_indicator_symbol_letter_n=127475
  regional_indicator_symbol_letter_o=127476 regional_indicator_symbol_letter_p=127477
  regional_indicator_symbol_letter_q=127478 regional_indicator_symbol_letter_r=127479
  regional_indicator_symbol_letter_s=127480 regional_indicator_symbol_letter_t=127481
  regional_indicator_symbol_letter_u=127482 regional_indicator_symbol_letter_v=127483
  regional_indicator_symbol_letter_w=127484 regional_indicator_symbol_letter_x=127485
  regional_indicator_symbol_letter_y=127486 regional_indicator_symbol_letter_z=127487 airplane_arriving=128748
  space_invader=128126 football=127944 anger=128162 angry=128544 anguished=128551 signal_strength=128246
  arrows_counterclockwise=128260 arrow_heading_down=10549 arrow_heading_up=10548 art=127912 astonished=128562
  athletic_shoe=128095 atm=127975 car=128663 red_car=128663 angel=128124 back=128281
  badminton_racquet_and_shuttlecock=127992 dollar=128181 euro=128182 pound=128183 yen=128180 barber=128136 bath=128704
  bear=128059 heartbeat=128147 beer=127866 no_bell=128277 bento=127857 bike=128690 bicyclist=128692 8ball=127921
  biohazard_sign=9763 birthday=127874 black_circle_for_record=9210 clubs=9827 diamonds=9830 arrow_double_down=9196
  hearts=9829 rewind=9194 black_left__pointing_double_triangle_with_vertical_bar=9198 arrow_backward=9664
  black_medium_small_square=9726 question=10067 fast_forward=9193
  black_right__pointing_double_triangle_with_vertical_bar=9197 arrow_forward=9654
  black_right__pointing_triangle_with_double_vertical_bar=9199 arrow_right=10145 spades=9824 black_square_for_stop=9209
  sunny=9728 phone=9742 recycle=9851 arrow_double_up=9195 busstop=128655 date=128197 flags=127887 cat2=128008
  joy_cat=128569 smirk_cat=128572 chart_with_downwards_trend=128201 chart_with_upwards_trend=128200 chart=128185
  mega=128227 checkered_flag=127937 accept=127569 ideograph_advantage=127568 congratulations=12951 secret=12953 m=9410
  city_sunset=127750 clapper=127916 clap=128079 beers=127867 clock830=128355 clock8=128343 clock1130=128358
  clock11=128346 clock530=128352 clock5=128340 clock430=128351 clock4=128339 clock930=128356 clock9=128344
  clock130=128348 clock1=128336 clock730=128354 clock7=128342 clock630=128353 clock6=128341 clock1030=128357
  clock10=128345 clock330=128350 clock3=128338 clock1230=128359 clock12=128347 clock230=128349 clock2=128337
  arrows_clockwise=128259 repeat=128257 repeat_one=128258 closed_lock_with_key=128272 mailbox_closed=128234
  mailbox=128235 cloud_with_tornado=127786 cocktail=127864 boom=128165 compression=128476 confounded=128534
  confused=128533 rice=127834 cow2=128004 cricket_bat_and_ball=127951 x=10060 cry=128546 curry=127835
  dagger_knife=128481 dancer=128131 dark_sunglasses=128374 dash=128168 truck=128666 derelict_house_building=127962
  diamond_shape_with_a_dot_inside=128160 dart=127919 disappointed_relieved=128549 disappointed=128542
  do_not_litter=128687 dog2=128021 flipper=128044 loop=10175 bangbang=8252 double_vertical_bar=9208 dove_of_peace=128330
  small_red_triangle_down=128315 arrow_down_small=128317 arrow_down=11015 dromedary_camel=128042 e__mail=128231
  corn=127805 ear_of_rice=127806 earth_americas=127758 earth_asia=127759 earth_africa=127757
  eight_pointed_black_star=10036 eight_spoked_asterisk=10035 eject_symbol=9167 bulb=128161
  emoji_modifier_fitzpatrick_type__1__2=127995 emoji_modifier_fitzpatrick_type__3=127996
  emoji_modifier_fitzpatrick_type__4=127997 emoji_modifier_fitzpatrick_type__5=127998
  emoji_modifier_fitzpatrick_type__6=127999 end=128282 email=9993 european_castle=127984 european_post_office=127972
  interrobang=8265 expressionless=128529 eyeglasses=128083 massage=128134 yum=128523 scream=128561 kissing_heart=128536
  sweat=128531 face_with_head__bandage=129301 triumph=128548 mask=128567 no_good=128581 ok_woman=128582
  open_mouth=128558 cold_sweat=128560 stuck_out_tongue=128539 stuck_out_tongue_closed_eyes=128541
  stuck_out_tongue_winking_eye=128540 joy=128514 no_mouth=128566 santa=127877 fax=128224 fearful=128552
  field_hockey_stick_and_ball=127953 first_quarter_moon_with_face=127771 fish_cake=127845 fishing_pole_and_fish=127907
  facepunch=128074 punch=128074 flag_for_afghanistan=127462-127467 flag_for_albania=127462-127473
  flag_for_algeria=127465-127487 flag_for_american_samoa=127462-127480 flag_for_andorra=127462-127465
  flag_for_angola=127462-127476 flag_for_anguilla=127462-127470 flag_for_antarctica=127462-127478
  flag_for_antigua_&_barbuda=127462-127468 flag_for_argentina=127462-127479 flag_for_armenia=127462-127474
  flag_for_aruba=127462-127484 flag_for_ascension_island=127462-127464 flag_for_australia=127462-127482
  flag_for_austria=127462-127481 flag_for_azerbaijan=127462-127487 flag_for_bahamas=127463-127480
  flag_for_bahrain=127463-127469 flag_for_bangladesh=127463-127465 flag_for_barbados=127463-127463
  flag_for_belarus=127463-127486 flag_for_belgium=127463-127466 flag_for_belize=127463-127487
  flag_for_benin=127463-127471 flag_for_bermuda=127463-127474 flag_for_bhutan=127463-127481
  flag_for_bolivia=127463-127476 flag_for_bosnia_&_herzegovina=127463-127462 flag_for_botswana=127463-127484
  flag_for_bouvet_island=127463-127483 flag_for_brazil=127463-127479
  flag_for_british_indian_ocean_territory=127470-127476 flag_for_british_virgin_islands=127483-127468
  flag_for_brunei=127463-127475 flag_for_bulgaria=127463-127468 flag_for_burkina_faso=127463-127467
  flag_for_burundi=127463-127470 flag_for_cambodia=127472-127469 flag_for_cameroon=127464-127474
  flag_for_canada=127464-127462 flag_for_canary_islands=127470-127464 flag_for_cape_verde=127464-127483
  flag_for_caribbean_netherlands=127463-127478 flag_for_cayman_islands=127472-127486
  flag_for_central_african_republic=127464-127467 flag_for_ceuta_&_melilla=127466-127462 flag_for_chad=127481-127465
  flag_for_chile=127464-127473 flag_for_china=127464-127475 flag_for_christmas_island=127464-127485
  flag_for_clipperton_island=127464-127477 flag_for_cocos__islands=127464-127464 flag_for_colombia=127464-127476
  flag_for_comoros=127472-127474 flag_for_congo____brazzaville=127464-127468 flag_for_congo____kinshasa=127464-127465
  flag_for_cook_islands=127464-127472 flag_for_costa_rica=127464-127479 flag_for_croatia=127469-127479
  flag_for_cuba=127464-127482 flag_for_curaçao=127464-127484 flag_for_cyprus=127464-127486
  flag_for_czech_republic=127464-127487 flag_for_côte_d’ivoire=127464-127470 flag_for_denmark=127465-127472
  flag_for_diego_garcia=127465-127468 flag_for_djibouti=127465-127471 flag_for_dominica=127465-127474
  flag_for_dominican_republic=127465-127476 flag_for_ecuador=127466-127464 flag_for_egypt=127466-127468
  flag_for_el_salvador=127480-127483 flag_for_equatorial_guinea=127468-127478 flag_for_eritrea=127466-127479
  flag_for_estonia=127466-127466 flag_for_ethiopia=127466-127481 flag_for_european_union=127466-127482
  flag_for_falkland_islands=127467-127472 flag_for_faroe_islands=127467-127476 flag_for_fiji=127467-127471
  flag_for_finland=127467-127470 flag_for_france=127467-127479 flag_for_french_guiana=127468-127467
  flag_for_french_polynesia=127477-127467 flag_for_french_southern_territories=127481-127467
  flag_for_gabon=127468-127462 flag_for_gambia=127468-127474 flag_for_georgia=127468-127466
  flag_for_germany=127465-127466 flag_for_ghana=127468-127469 flag_for_gibraltar=127468-127470
  flag_for_greece=127468-127479 flag_for_greenland=127468-127473 flag_for_grenada=127468-127465
  flag_for_guadeloupe=127468-127477 flag_for_guam=127468-127482 flag_for_guatemala=127468-127481
  flag_for_guernsey=127468-127468 flag_for_guinea=127468-127475 flag_for_guinea__bissau=127468-127484
  flag_for_guyana=127468-127486 flag_for_haiti=127469-127481 flag_for_heard_&_mcdonald_islands=127469-127474
  flag_for_honduras=127469-127475 flag_for_hong_kong=127469-127472 flag_for_hungary=127469-127482
  flag_for_iceland=127470-127480 flag_for_india=127470-127475 flag_for_indonesia=127470-127465
  flag_for_iran=127470-127479 flag_for_iraq=127470-127478 flag_for_ireland=127470-127466
  flag_for_isle_of_man=127470-127474 flag_for_israel=127470-127473 flag_for_italy=127470-127481
  flag_for_jamaica=127471-127474 flag_for_japan=127471-127477 flag_for_jersey=127471-127466
  flag_for_jordan=127471-127476 flag_for_kazakhstan=127472-127487 flag_for_kenya=127472-127466
  flag_for_kiribati=127472-127470 flag_for_kosovo=127485-127472 flag_for_kuwait=127472-127484
  flag_for_kyrgyzstan=127472-127468 flag_for_laos=127473-127462 flag_for_latvia=127473-127483
  flag_for_lebanon=127473-127463 flag_for_lesotho=127473-127480 flag_for_liberia=127473-127479
  flag_for_libya=127473-127486 flag_for_liechtenstein=127473-127470 flag_for_lithuania=127473-127481
  flag_for_luxembourg=127473-127482 flag_for_macau=127474-127476 flag_for_macedonia=127474-127472
  flag_for_madagascar=127474-127468 flag_for_malawi=127474-127484 flag_for_malaysia=127474-127486
  flag_for_maldives=127474-127483 flag_for_mali=127474-127473 flag_for_malta=127474-127481
  flag_for_marshall_islands=127474-127469 flag_for_martinique=127474-127478 flag_for_mauritania=127474-127479
  flag_for_mauritius=127474-127482 flag_for_mayotte=127486-127481 flag_for_mexico=127474-127485
  flag_for_micronesia=127467-127474 flag_for_moldova=127474-127465 flag_for_monaco=127474-127464
  flag_for_mongolia=127474-127475 flag_for_montenegro=127474-127466 flag_for_montserrat=127474-127480
  flag_for_morocco=127474-127462 flag_for_mozambique=127474-127487 flag_for_myanmar=127474-127474
  flag_for_namibia=127475-127462 flag_for_nauru=127475-127479 flag_for_nepal=127475-127477
  flag_for_netherlands=127475-127473 flag_for_new_caledonia=127475-127464 flag_for_new_zealand=127475-127487
  flag_for_nicaragua=127475-127470 flag_for_niger=127475-127466 flag_for_nigeria=127475-127468
  flag_for_niue=127475-127482 flag_for_norfolk_island=127475-127467 flag_for_north_korea=127472-127477
  flag_for_northern_mariana_islands=127474-127477 flag_for_norway=127475-127476 flag_for_oman=127476-127474
  flag_for_pakistan=127477-127472 flag_for_palau=127477-127484 flag_for_palestinian_territories=127477-127480
  flag_for_panama=127477-127462 flag_for_papua_new_guinea=127477-127468 flag_for_paraguay=127477-127486
  flag_for_peru=127477-127466 flag_for_philippines=127477-127469 flag_for_pitcairn_islands=127477-127475
  flag_for_poland=127477-127473 flag_for_portugal=127477-127481 flag_for_puerto_rico=127477-127479
  flag_for_qatar=127478-127462 flag_for_romania=127479-127476 flag_for_russia=127479-127482
  flag_for_rwanda=127479-127484 flag_for_réunion=127479-127466 flag_for_samoa=127484-127480
  flag_for_san_marino=127480-127474 flag_for_saudi_arabia=127480-127462 flag_for_senegal=127480-127475
  flag_for_serbia=127479-127480 flag_for_seychelles=127480-127464 flag_for_sierra_leone=127480-127473
  flag_for_singapore=127480-127468 flag_for_sint_maarten=127480-127485 flag_for_slovakia=127480-127472
  flag_for_slovenia=127480-127470 flag_for_solomon_islands=127480-127463 flag_for_somalia=127480-127476
  flag_for_south_africa=127487-127462 flag_for_south_georgia_&_south_sandwich_islands=127468-127480
  flag_for_south_korea=127472-127479 flag_for_south_sudan=127480-127480 flag_for_spain=127466-127480
  flag_for_sri_lanka=127473-127472 flag_for_st._barthélemy=127463-127473 flag_for_st._helena=127480-127469
  flag_for_st._kitts_&_nevis=127472-127475 flag_for_st._lucia=127473-127464 flag_for_st._martin=127474-127467
  flag_for_st._pierre_&_miquelon=127477-127474 flag_for_st._vincent_&_grenadines=127483-127464
  flag_for_sudan=127480-127465 flag_for_suriname=127480-127479 flag_for_svalbard_&_jan_mayen=127480-127471
  flag_for_swaziland=127480-127487 flag_for_sweden=127480-127466 flag_for_switzerland=127464-127469
  flag_for_syria=127480-127486 flag_for_são_tomé_&_príncipe=127480-127481 flag_for_taiwan=127481-127484
  flag_for_tajikistan=127481-127471 flag_for_tanzania=127481-127487 flag_for_thailand=127481-127469
  flag_for_timor__leste=127481-127473 flag_for_togo=127481-127468 flag_for_tokelau=127481-127472
  flag_for_tonga=127481-127476 flag_for_trinidad_&_tobago=127481-127481 flag_for_tristan_da_cunha=127481-127462
  flag_for_tunisia=127481-127475 flag_for_turkey=127481-127479 flag_for_turkmenistan=127481-127474
  flag_for_turks_&_caicos_islands=127481-127464 flag_for_tuvalu=127481-127483
  flag_for_u.s._outlying_islands=127482-127474 flag_for_u.s._virgin_islands=127483-127470 flag_for_uganda=127482-127468
  flag_for_ukraine=127482-127462 flag_for_united_arab_emirates=127462-127466 flag_for_united_kingdom=127468-127463
  flag_for_united_states=127482-127480 flag_for_uruguay=127482-127486 flag_for_uzbekistan=127482-127487
  flag_for_vanuatu=127483-127482 flag_for_vatican_city=127483-127462 flag_for_venezuela=127483-127466
  flag_for_vietnam=127483-127475 flag_for_wallis_&_futuna=127484-127467 flag_for_western_sahara=127466-127469
  flag_for_yemen=127486-127466 flag_for_zambia=127487-127474 flag_for_zimbabwe=127487-127484
  flag_for_åland_islands=127462-127485 golf=9971 fleur__de__lis=9884 muscle=128170 flushed=128563
  frame_with_picture=128444 fries=127839 frog=128056 hatched_chick=128037 frowning=128550 fuelpump=9981
  full_moon_with_face=127773 gem=128142 star2=127775 golfer=127948 mortar_board=127891 grimacing=128556 smile_cat=128568
  grinning=128512 grin=128513 heartpulse=128151 guardsman=128130 haircut=128135 hamster=128057 raising_hand=128587
  headphones=127911 hear_no_evil=128585 cupid=128152 gift_heart=128157 heart=10084 exclamation=10071
  heavy_exclamation_mark=10071 heavy_heart_exclamation_mark_ornament=10083 o=11093 helm_symbol=9096
  helmet_with_white_cross=9937 high_heel=128096 bullettrain_side=128644 bullettrain_front=128645 high_brightness=128262
  zap=9889 hocho=128298 knife=128298 bee=128029 traffic_light=128677 racehorse=128014 coffee=9749 hotsprings=9832
  hourglass=8987 hourglass_flowing_sand=9203 house_buildings=127960 100=128175 hushed=128559
  ice_hockey_stick_and_puck=127954 imp=128127 information_desk_person=128129 information_source=8505 capital_abcd=128288
  abc=128292 abcd=128289 1234=128290 symbols=128291 izakaya_lantern=127982 lantern=127982 jack_o_lantern=127875
  dolls=127886 japanese_goblin=128122 japanese_ogre=128121 beginner=128304 zero=48-65039-8419 one=49-65039-8419
  ten=128287 two=50-65039-8419 three=51-65039-8419 four=52-65039-8419 five=53-65039-8419 six=54-65039-8419
  seven=55-65039-8419 eight=56-65039-8419 nine=57-65039-8419 couplekiss=128143 kissing_cat=128573 kissing=128535
  kissing_closed_eyes=128538 kissing_smiling_eyes=128537 beetle=128030 large_blue_circle=128309
  last_quarter_moon_with_face=127772 leaves=127811 mag=128269 left_right_arrow=8596 leftwards_arrow_with_hook=8617
  arrow_left=11013 lock=128274 lock_with_ink_pen=128271 sob=128557 low_brightness=128261 lower_left_ballpoint_pen=128394
  lower_left_crayon=128397 lower_left_fountain_pen=128395 lower_left_paintbrush=128396 mahjong=126980 couple=128107
  man_in_business_suit_levitating=128372 man_with_gua_pi_mao=128114 man_with_turban=128115 mans_shoe=128094 shoe=128094
  menorah_with_nine_branches=128334 mens=128697 minidisc=128189 iphone=128241 calling=128242 money__mouth_face=129297
  moneybag=128176 rice_scene=127889 mountain_bicyclist=128693 mouse2=128001 lips=128068 moyai=128511 notes=127926
  nail_care=128133 ab=127374 negative_squared_cross_mark=10062 a=127344 b=127345 o2=127358 parking=127359
  new_moon_with_face=127770 no_entry_sign=128683 underage=128286 non__potable_water=128689 arrow_upper_right=8599
  arrow_upper_left=8598 office=127970 older_man=128116 older_woman=128117 om_symbol=128329 on=128283 book=128214
  unlock=128275 mailbox_with_no_mail=128237 mailbox_with_mail=128236 cd=128191 tada=127881 feet=128062 walking=128694
  pencil2=9999 pensive=128532 persevere=128547 bow=128583 raised_hands=128588 person_with_ball=9977
  person_with_blond_hair=128113 pray=128591 person_with_pouting_face=128590 computer=128187 pig2=128022 hankey=128169
  poop=128169 shit=128169 bamboo=127885 gun=128299 black_joker=127183 rotating_light=128680 cop=128110 stew=127858
  pouch=128093 pouting_cat=128574 rage=128545 put_litter_in_its_place=128686 rabbit2=128007 racing_motorcycle=127949
  radioactive_sign=9762 fist=9994 hand=9995 raised_hand_with_fingers_splayed=128400
  raised_hand_with_part_between_middle_and_ring_fingers=128406 blue_car=128665 apple=127822 relieved=128524
  reversed_hand_with_middle_finger_extended=128405 mag_right=128270 arrow_right_hook=8618 sweet_potato=127840
  robot=129302 rolled__up_newspaper=128478 rowboat=128675 runner=127939 running=127939 running_shirt_with_sash=127933
  boat=9973 scales=9878 school_satchel=127890 scorpius=9807 see_no_evil=128584 sheep=128017 stars=127776 cake=127856
  six_pointed_star=128303 ski=127935 sleeping_accommodation=128716 sleeping=128564 sleepy=128554 sleuth_or_spy=128373
  heart_eyes_cat=128571 smiley_cat=128570 innocent=128519 heart_eyes=128525 smiling_imp=128520 smiley=128515
  sweat_smile=128517 smile=128516 laughing=128518 satisfied=128518 blush=128522 smirk=128527 smoking=128684
  snow_capped_mountain=127956 soccer=9917 icecream=127846 soon=128284 arrow_lower_right=8600 arrow_lower_left=8601
  speak_no_evil=128586 speaker=128264 mute=128263 sound=128265 loud_sound=128266 speaking_head_in_silhouette=128483
  spiral_calendar_pad=128467 spiral_note_pad=128466 shell=128026 sweat_drops=128166 u5272=127545 u5408=127540
  u55b6=127546 u6307=127535 u6708=127543 u6709=127542 u6e80=127541 u7121=127514 u7533=127544 u7981=127538 u7a7a=127539
  cl=127377 cool=127378 free=127379 id=127380 koko=127489 sa=127490 new=127381 ng=127382 ok=127383 sos=127384 up=127385
  vs=127386 steam_locomotive=128642 ramen=127836 partly_sunny=9925 city_sunrise=127751 surfer=127940 swimmer=127946
  shirt=128085 tshirt=128085 table_tennis_paddle_and_ball=127955 tea=127861 tv=128250 three_button_mouse=128433
  +1=128077 thumbsup=128077 __1=128078 -1=128078 thumbsdown=128078 thunder_cloud_and_rain=9928 tiger2=128005
  tophat=127913 top=128285 tm=8482 train2=128646 triangular_flag_on_post=128681 trident=128305
  twisted_rightwards_arrows=128256 unamused=128530 small_red_triangle=128314 arrow_up_small=128316 arrow_up_down=8597
  upside__down_face=128579 arrow_up=11014 v=9996 vhs=128252 wc=128702 ocean=127754 waving_black_flag=127988 wave=128075
  waving_white_flag=127987 moon=127764 scream_cat=128576 weary=128553 weight_lifter=127947 whale2=128011 wheelchair=9855
  point_down=128071 grey_exclamation=10069 white_frowning_face=9785 white_check_mark=9989 point_left=128072
  white_medium_small_square=9725 star=11088 grey_question=10068 point_right=128073 relaxed=9786
  white_sun_behind_cloud=127781 white_sun_behind_cloud_with_rain=127782 white_sun_with_small_cloud=127780
  point_up_2=128070 point_up=9757 wind_blowing_face=127788 wink=128521 wolf=128058 dancers=128111 boot=128098
  womans_clothes=128090 womans_hat=128082 sandal=128097 womens=128698 worried=128543 gift=127873
  zipper__mouth_face=129296 regional_indicator_a=127462 regional_indicator_b=127463 regional_indicator_c=127464
  regional_indicator_d=127465 regional_indicator_e=127466 regional_indicator_f=127467 regional_indicator_g=127468
  regional_indicator_h=127469 regional_indicator_i=127470 regional_indicator_j=127471 regional_indicator_k=127472
  regional_indicator_l=127473 regional_indicator_m=127474 regional_indicator_n=127475 regional_indicator_o=127476
  regional_indicator_p=127477 regional_indicator_q=127478 regional_indicator_r=127479 regional_indicator_s=127480
  regional_indicator_t=127481 regional_indicator_u=127482 regional_indicator_v=127483 regional_indicator_w=127484
  regional_indicator_x=127485 regional_indicator_y=127486 regional_indicator_z=127487"

/-- The characters that numbers stand for. -/
def ofNumbers? (cs : List Char) : Option (List Char) :=
  (Text.splitAtEach '-' cs).mapM fun n => (String.ofList n).toNat?.map Char.ofNat

/-- The sign of a name, whatever the case. -/
def emoji? (name : String) : Option (List Char) := do
  let key := (Text.lower name).toList
  let entry ← (Text.words emojiTable.toList).find? (·.takeWhile (· != '=') == key)
  ofNumbers? (entry.drop (key.length + 1))

end ChangeGraph.Screen
